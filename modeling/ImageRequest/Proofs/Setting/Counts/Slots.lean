import ImageRequest.Proofs.Setting.Arity
import ImageRequest.Proofs.Setting.Counts
import ImageRequest.Proofs.Setting.Valid

/-!
# Arguments of settings with several slots

All arguments of a padding, a trim, a background and a list of formats count, and so do those of a
watermark that it has slots for.
-/

namespace ImageRequest

namespace Script

theorem counts_padding {arguments : List String} {index : Nat} (within : index < arguments.length)
    (accepted : (padding arguments).rejection? = none) : Counts padding arguments index := by
  have few := Setting.padding.length_le_of_accepted 0 rfl accepted
  refine counts_of_refuses fun passed => ?_
  rw [padding_of_accepted passed] at passed
  simp only [paddingLengths, rejection?_append_eq_none] at passed
  obtain ⟨-, ⟨⟨⟨top, right⟩, bottom⟩, left⟩, -⟩ := passed
  rcases index with _ | _ | _ | _ | index
  · rw [slot_set_mark within] at top
    cases top
  · rw [slot_set_mark within] at right
    cases right
  · rw [slot_set_mark within] at bottom
    cases bottom
  · rw [slot_set_mark within] at left
    cases left
  · omega

theorem counts_trim {arguments : List String} {index : Nat} {token : String}
    (given : arguments[index]? = some token) (filled : token ≠ "")
    (accepted : (trim arguments).rejection? = none) : Counts trim arguments index := by
  have within : index < arguments.length := (List.getElem?_eq_some_iff.1 given).1
  cases arguments with
  | nil => cases within
  | cons threshold rest =>
      have few : ¬ 3 < rest.length :=
        Setting.trim.not_lt_length_of_accepted 0 rfl accepted
      have stillFew : ∀ index token, ¬ 3 < (rest.set index token).length := by
        intro index token
        rwa [List.length_set]
      rw [trim, if_neg few] at accepted
      obtain ⟨before, vertically⟩ := rejection?_append_eq_none.1 accepted
      match index, given with
      | 0, given =>
          refine counts_of_refuses ?_
          rw [List.set_cons_zero, trim, if_neg few]
          exact ((Refuses.append_right (by nofun) _).append_right _).append_right _
      | 1, given =>
          have inside : 0 < rest.length := Nat.lt_of_succ_lt_succ within
          refine counts_of_refuses ?_
          rw [List.set_cons_succ, trim, if_neg (stillFew _ _), slot_set_mark inside]
          exact ((Refuses.append_left (by nofun) _).append_right _).append_right _
      | 2, given =>
          have inside : 1 < rest.length := Nat.lt_of_succ_lt_succ within
          have given : rest[1]? = some token := given
          refine ⟨opposite token, opposite_ne_empty token, ?_⟩
          rw [List.set_cons_succ, trim, trim, if_neg few, if_neg (stillFew _ _),
            slot_of_ne given filled, slot_set inside (opposite_ne_empty token),
            slot_set_of_ne (by decide), slot_set_of_ne (by decide),
            append_assoc (_ ++ _), append_assoc (_ ++ _)]
          refine Apart.append_left ?_ (rejection?_append_eq_none.1 before).1
          refine apart_flag (·.trim.equalHorizontally) (fun _ _ => rfl) vertically ?_
          exact .slot fun _ => .flag fun _ _ => rfl
      | 3, given =>
          have inside : 2 < rest.length := Nat.lt_of_succ_lt_succ within
          have given : rest[2]? = some token := given
          refine ⟨opposite token, opposite_ne_empty token, ?_⟩
          rw [List.set_cons_succ, trim, trim, if_neg few, if_neg (stillFew _ _),
            slot_of_ne given filled, slot_set inside (opposite_ne_empty token),
            slot_set_of_ne (by decide), slot_set_of_ne (by decide)]
          refine Apart.append_left ?_ before
          exact apart_last_flag (·.trim.equalVertically) fun _ _ => rfl
      | index + 4, _ =>
          rw [List.length_cons] at within
          omega

/-- The arguments of a background are a color or three channels. -/
theorem counts_background {arguments : List String} {index : Nat}
    (within : index < arguments.length) (accepted : (background arguments).rejection? = none) :
    Counts background arguments index := by
  refine counts_of_refuses ?_
  have counted : arguments.length = 1 ∨ arguments.length = 3 := by
    by_contra other
    obtain ⟨one, three⟩ := not_or.1 other
    rw [background_eq_reject one three] at accepted
    cases accepted
  rcases counted with count | count
  · match arguments, count with
    | [hex], _ =>
        have first : index = 0 := by simpa using within
        subst first
        exact Refuses.append_right (by nofun) _
  · match arguments, count, index with
    | [red, green, blue], _, 0 =>
        rw [List.set_cons_zero, background_of_three]
        exact ((Refuses.append_left (by nofun) _).append_right _).append_right _
    | [red, green, blue], _, 1 =>
        rw [List.set_cons_succ, List.set_cons_zero, background_of_three]
        exact (Refuses.append_left (by nofun) _).append_right _
    | [red, green, blue], _, 2 =>
        rw [List.set_cons_succ, List.set_cons_succ, List.set_cons_zero, background_of_three]
        exact Refuses.append_left (by nofun) _
    | [red, green, blue], _, index + 3 =>
        simp only [List.length_cons, List.length_nil] at within
        omega

/-- A watermark has slots for five arguments. -/
theorem counts_watermark {arguments : List String} {index : Nat} (within : index < arguments.length)
    (slots : index < 5) (accepted : (watermark arguments).rejection? = none) :
    Counts watermark arguments index := by
  refine counts_of_refuses ?_
  cases arguments with
  | nil => cases within
  | cons opacity rest =>
      have few : ¬ 6 < rest.length :=
        Setting.watermark.not_lt_length_of_accepted 0 rfl accepted
      have stillFew : ∀ index, ¬ 6 < (rest.set index "?").length := by
        intro index
        rwa [List.length_set]
      cases index with
      | zero =>
          rw [List.set_cons_zero, watermark, if_neg few]
          exact (((Refuses.append_right (by nofun) _).append_right _).append_right _).append_right _
      | succ index =>
          have inside : index < rest.length := Nat.lt_of_succ_lt_succ within
          rw [List.set_cons_succ, watermark, if_neg (stillFew index)]
          match index with
          | 0 =>
              rw [slot_set_mark inside]
              exact (((Refuses.append_left (by nofun) _).append_right _).append_right
                _).append_right _
          | 1 =>
              rw [slot_set_mark inside]
              exact ((Refuses.append_left (by nofun) _).append_right _).append_right _
          | 2 =>
              rw [slot_set_mark inside]
              exact (Refuses.append_left (by nofun) _).append_right _
          | 3 =>
              rw [slot_set_mark inside]
              exact Refuses.append_left (by nofun) _
          | index + 4 => omega

theorem counts_skipProcessing {arguments : List String} {index : Nat}
    (within : index < arguments.length) : Counts skipProcessing arguments index := by
  refine counts_of_refuses fun passed => ?_
  rw [skipProcessing, rejection?_sequence, List.findSome?_eq_none_iff] at passed
  have among : "?" ∈ arguments.set index "?" := List.mem_set within "?"
  have refused := passed _ (List.mem_map_of_mem among)
  cases refused

end Script

end ImageRequest
