import ImageRequest.Proofs.Setting.Counts.Gravity

/-!
# Arguments of sizes

A size and a resize hand their last arguments on to an extension, unless the first of these is
empty. In that case the others can be replaced by anything, and in any other case they count, as all
arguments in front of them do.
-/

namespace ImageRequest

namespace Script

/-- What the slots of a size in front of the extension do. -/
def sizeSlots (arguments : List String) : Script :=
  slot arguments 0 (fun token => width [token]) ++
    slot arguments 1 (fun token => height [token]) ++
    slot arguments 2 (fun token => enlarge [token])

theorem size_eq {arguments : List String} (few : ¬ 7 < arguments.length) :
    size arguments =
      sizeSlots arguments ++ slot arguments 3 (fun _ => extend (arguments.drop 3)) :=
  if_neg few

/-- The slots in front of the extension do not depend on what comes later. -/
theorem sizeSlots_set {arguments : List String} {index : Nat} (late : 3 ≤ index) (token : String) :
    sizeSlots (arguments.set index token) = sizeSlots arguments := by
  rw [sizeSlots, slot_set_of_ne (by omega), slot_set_of_ne (by omega), slot_set_of_ne (by omega)]
  rfl

/-- What stands behind an empty extension is not looked at. -/
theorem size_set_of_empty {arguments : List String} {index : Nat} (late : 3 < index)
    (empty : arguments[3]? = some "") (few : ¬ 7 < arguments.length) (token : String) :
    size (arguments.set index token) = size arguments := by
  have unchanged : (arguments.set index token)[3]? = some "" :=
    (List.getElem?_set_ne (Nat.ne_of_gt late)).trans empty
  rw [size_eq few, size_eq (by rwa [List.length_set]), sizeSlots_set (Nat.le_of_lt late),
    slot_of_empty unchanged, slot_of_empty empty]

/-- The first argument of an extension is given, so that the extension is not passed over. -/
theorem counts_size_extension {arguments : List String} {index : Nat} {enabled : String}
    (within : index < arguments.length) (late : 3 ≤ index) (given : arguments[3]? = some enabled)
    (filled : enabled ≠ "") (accepted : (size arguments).rejection? = none) :
    Counts size arguments index := by
  have few : ¬ 7 < arguments.length :=
    Nat.not_lt.2 (Setting.size.length_le_of_accepted 0 rfl accepted)
  rw [size_eq few, slot_of_ne given filled] at accepted
  obtain ⟨before, extended⟩ := rejection?_append_eq_none.1 accepted
  have inside : index - 3 < (arguments.drop 3).length := by
    rw [List.length_drop]
    omega
  obtain ⟨token, filled', apart⟩ := counts_extend inside extended
  have dropped : (arguments.set index token).drop 3 = (arguments.drop 3).set (index - 3) token := by
    rw [List.drop_set, if_neg (Nat.not_lt.2 late)]
  -- The extension is still asked for, also if it is its first argument that is replaced.
  have first : ∃ enabled', (arguments.set index token)[3]? = some enabled' ∧ enabled' ≠ "" := by
    by_cases same : index = 3
    · subst same
      exact ⟨token, List.getElem?_set_self within, filled'⟩
    · exact ⟨enabled, (List.getElem?_set_ne same).trans given, filled⟩
  obtain ⟨enabled', given', filledFirst⟩ := first
  refine ⟨token, filled', ?_⟩
  rw [size_eq few, size_eq (by rwa [List.length_set]), slot_of_ne given filled,
    slot_of_ne given' filledFirst, sizeSlots_set late, dropped]
  exact apart.append_left before

theorem counts_size {arguments : List String} {index : Nat} {token : String}
    (given : arguments[index]? = some token) (filled : token ≠ "")
    (heard : ¬ (3 < index ∧ arguments[3]? = some ""))
    (accepted : (size arguments).rejection? = none) : Counts size arguments index := by
  have within : index < arguments.length := (List.getElem?_eq_some_iff.1 given).1
  have few : ¬ 7 < arguments.length :=
    Nat.not_lt.2 (Setting.size.length_le_of_accepted 0 rfl accepted)
  have stillFew : ∀ token, ¬ 7 < (arguments.set index token).length := by
    intro token
    rwa [List.length_set]
  match index, given with
  | 0, given =>
      refine counts_of_refuses ?_
      rw [size_eq (stillFew "?"), sizeSlots, slot_set_mark within]
      exact ((Refuses.append_right (by nofun) _).append_right _).append_right _
  | 1, given =>
      refine counts_of_refuses ?_
      rw [size_eq (stillFew "?"), sizeSlots, slot_set_mark within]
      exact ((Refuses.append_left (by nofun) _).append_right _).append_right _
  | 2, given =>
      refine ⟨opposite token, opposite_ne_empty token, ?_⟩
      rw [size_eq few, sizeSlots, slot_of_ne given filled] at accepted
      rw [size_eq few, size_eq (stillFew _), sizeSlots, sizeSlots, slot_of_ne given filled,
        slot_set within (opposite_ne_empty token), slot_set_of_ne (by decide),
        slot_set_of_ne (by decide), slot_set_of_ne (by decide), List.drop_set_of_lt (by decide),
        append_assoc (_ ++ _), append_assoc (_ ++ _)]
      obtain ⟨before, extended⟩ := rejection?_append_eq_none.1 accepted
      -- An extension comes later, and writes nothing but the extension.
      refine Apart.append_left ?_ (rejection?_append_eq_none.1 before).1
      refine apart_flag (·.enlarge) (fun _ _ => rfl) extended (.slot fun _ => ?_)
      exact .extend (fun _ _ => rfl) (arguments.drop 3)
  | index + 3, given =>
      cases first : arguments[3]? with
      | none =>
          have missing : arguments.length ≤ 3 := List.getElem?_eq_none_iff.1 first
          omega
      | some enabled =>
          -- The first argument of the extension is filled, or else the others would be passed over.
          refine counts_size_extension within (by omega) first ?_ accepted
          rintro rfl
          match index, given with
          | 0, given => exact filled (Option.some.inj (given.symm.trans first))
          | index + 1, _ => exact heard ⟨by omega, first⟩

theorem counts_resize {arguments : List String} {index : Nat} {token : String}
    (given : arguments[index]? = some token) (filled : token ≠ "")
    (heard : ¬ (4 < index ∧ arguments[4]? = some ""))
    (accepted : (resize arguments).rejection? = none) : Counts resize arguments index := by
  have within : index < arguments.length := (List.getElem?_eq_some_iff.1 given).1
  cases arguments with
  | nil => cases within
  | cons type rest =>
      have few : ¬ 7 < rest.length :=
        Setting.resize.not_lt_length_of_accepted 0 rfl accepted
      rw [resize, if_neg few] at accepted
      cases index with
      | zero =>
          refine counts_of_refuses ?_
          rw [List.set_cons_zero, resize, if_neg few]
          exact Refuses.append_right (by nofun) _
      | succ index =>
          obtain ⟨before, sized⟩ := rejection?_append_eq_none.1 accepted
          have given : rest[index]? = some token := given
          have heard : ¬ (3 < index ∧ rest[3]? = some "") := by
            rintro ⟨late, empty⟩
            exact heard ⟨Nat.succ_lt_succ late, empty⟩
          obtain ⟨other, filled, apart⟩ := counts_size given filled heard sized
          refine ⟨other, filled, ?_⟩
          rw [List.set_cons_succ, resize, resize, if_neg few,
            if_neg (by rwa [List.length_set])]
          exact apart.append_left before

theorem resize_set_of_empty {arguments : List String} {index : Nat} (late : 4 < index)
    (empty : arguments[4]? = some "") (few : ¬ 8 < arguments.length) (token : String) :
    resize (arguments.set index token) = resize arguments := by
  cases arguments with
  | nil => rfl
  | cons type rest =>
      obtain ⟨index, rfl⟩ : ∃ before, index = before + 1 := ⟨index - 1, by omega⟩
      have few : ¬ 7 < rest.length := fun many => few (Nat.succ_lt_succ many)
      have same : size (rest.set index token) = size rest :=
        size_set_of_empty (Nat.lt_of_succ_lt_succ late) empty few token
      rw [List.set_cons_succ, resize, resize, if_neg few, if_neg (by rwa [List.length_set]), same]
      rfl

end Script

end ImageRequest
