import ImageRequest.Proofs.Setting.Arity
import ImageRequest.Proofs.Setting.Counts
import ImageRequest.Proofs.Setting.Fields
import ImageRequest.Proofs.Token

/-!
# Arguments of settings with a gravity

Every token of a gravity is read (`Placement.ofTokens_set_ne_ok`), and so is everything in front of
it: all arguments of a gravity, a crop and an extension count.
-/

namespace ImageRequest

theorem Anchor.le_of_acceptsOffsetCount {anchor : Anchor} {count : Nat}
    (counted : anchor.acceptsOffsetCount count = true) : count ≤ 2 := by
  cases anchor <;>
    simp only [acceptsOffsetCount, beq_iff_eq, decide_eq_true_eq] at counted <;> omega

namespace Placement

theorem anchor_of_ofTokens {word : String} {offsets : List String} {placement : Placement}
    (read : ofTokens (word :: offsets) = .ok placement) :
    ∃ anchor, Token.anchor word = .ok anchor := by
  simp only [ofTokens] at read
  split at read
  · cases read
  · cases named : Token.anchor word with
    | error rejection => simp [named, bind, Except.bind] at read
    | ok anchor => exact ⟨anchor, rfl⟩

/-- An offset that stands among the tokens of a placement has been read. -/
theorem offset_of_ofTokens {word : String} {offsets : List String} {placement : Placement}
    (read : ofTokens (word :: offsets) = .ok placement) {index : Nat} {token : String}
    (given : offsets[index]? = some token) :
    ∃ field offset, Placement.offset placement.anchor field token = .ok offset := by
  obtain ⟨word', offsets', same, counted, readX, readY⟩ := exists_of_ofTokens read
  obtain ⟨rfl, rfl⟩ := List.cons.inj same
  have few := Anchor.le_of_acceptsOffsetCount counted
  have within : index < offsets.length := (List.getElem?_eq_some_iff.1 given).1
  match index, given with
  | 0, given =>
      rw [given, Placement.offset?] at readX
      cases value : Placement.offset placement.anchor "gravity X" token with
      | ok offset => exact ⟨_, offset, value⟩
      | error rejection => simp [value, Except.map] at readX
  | 1, given =>
      rw [given, Placement.offset?] at readY
      cases value : Placement.offset placement.anchor "gravity Y" token with
      | ok offset => exact ⟨_, offset, value⟩
      | error rejection => simp [value, Except.map] at readY
  | index + 2, _ => omega

/-- Every token of a placement is read. -/
theorem ofTokens_set_ne_ok {tokens : List String} {index : Nat} (within : index < tokens.length)
    (placement : Placement) : ofTokens (tokens.set index "?") ≠ .ok placement := by
  intro read
  cases tokens with
  | nil => cases within
  | cons word offsets =>
      cases index with
      | zero =>
          obtain ⟨anchor, named⟩ := anchor_of_ofTokens read
          cases named
      | succ index =>
          have given : (offsets.set index "?")[index]? = some "?" :=
            List.getElem?_set_self (Nat.lt_of_succ_lt_succ within)
          obtain ⟨field, offset, value⟩ := offset_of_ofTokens read given
          cases value

end Placement

namespace Script

theorem refuses_place {tokens : List String} {index : Nat} (within : index < tokens.length)
    (edit : Placement → Edit) :
    (store edit (Placement.ofTokens (tokens.set index "?"))).Refuses := by
  cases read : Placement.ofTokens (tokens.set index "?") with
  | ok placement => exact absurd read (Placement.ofTokens_set_ne_ok within placement)
  | error rejection => exact nofun

theorem refuses_extensionGravity {tokens : List String} {index : Nat}
    (within : index < tokens.length) : (extensionGravity (tokens.set index "?")).Refuses := by
  unfold extensionGravity
  cases read : Placement.ofTokens (tokens.set index "?") with
  | ok placement => exact absurd read (Placement.ofTokens_set_ne_ok within placement)
  | error rejection => exact nofun

theorem counts_gravity {arguments : List String} {index : Nat} (within : index < arguments.length) :
    Counts gravity arguments index :=
  counts_of_refuses (refuses_place within .gravity)

theorem counts_crop {arguments : List String} {index : Nat} (within : index < arguments.length)
    (accepted : (crop arguments).rejection? = none) : Counts crop arguments index := by
  refine counts_of_refuses ?_
  cases arguments with
  | nil => cases within
  | cons width rest =>
      have few : ¬ 4 < rest.length := Setting.crop.not_lt_length_of_accepted 0 rfl accepted
      match index, rest with
      | 0, rest =>
          simp only [List.set_cons_zero, crop, if_neg few]
          exact Refuses.append_right (by nofun) _
      | 1, height :: tokens =>
          have few : ¬ 4 < ("?" :: tokens).length := few
          rw [List.set_cons_succ, List.set_cons_zero, crop, if_neg few]
          exact (Refuses.append_right (by nofun) _).append_left _
      | index + 2, height :: tokens =>
          have inside : index < tokens.length := by simpa using within
          have few : ¬ 4 < (height :: tokens.set index "?").length := by simpa using few
          have given : (tokens.set index "?").isEmpty ≠ true := by
            rw [ne_eq, List.isEmpty_iff_length_eq_zero, List.length_set]
            omega
          rw [List.set_cons_succ, List.set_cons_succ, crop, if_neg few]
          refine Refuses.append_left (Refuses.append_left ?_ _) _
          rw [if_neg given]
          exact refuses_place inside _

theorem counts_extend {arguments : List String} {index : Nat} (within : index < arguments.length)
    (accepted : (extend arguments).rejection? = none) : Counts extend arguments index := by
  cases arguments with
  | nil => cases within
  | cons enabled rest =>
      have few : ¬ 3 < rest.length :=
        Setting.extend.not_lt_length_of_accepted 0 rfl accepted
      rw [extend, if_neg few] at accepted
      cases index with
      | zero =>
          refine ⟨opposite enabled, opposite_ne_empty enabled, ?_⟩
          rw [List.set_cons_zero, extend, extend, if_neg few, if_neg few]
          refine apart_flag (·.extension.enabled) (fun _ _ => rfl)
            (rejection?_append_eq_none.1 accepted).2 ?_
          split
          · exact .done
          · exact .extensionGravity (fun _ _ => rfl) rest
      | succ index =>
          have inside : index < rest.length := Nat.lt_of_succ_lt_succ within
          have few : ¬ 3 < (rest.set index "?").length := by rwa [List.length_set]
          have given : (rest.set index "?").isEmpty ≠ true := by
            rw [ne_eq, List.isEmpty_iff_length_eq_zero, List.length_set]
            omega
          refine counts_of_refuses ?_
          rw [List.set_cons_succ, extend, if_neg few, if_neg given]
          exact (refuses_extensionGravity inside).append_left _

end Script

end ImageRequest
