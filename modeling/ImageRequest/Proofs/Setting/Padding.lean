import ImageRequest.Proofs.Setting.Handler
import ImageRequest.Proofs.Setting.Valid

/-!
# Paddings as a cascade

The arguments of a padding are the lengths at the top, right, bottom and left. A length that is
missing or empty falls back to others: the one on the left to the one on the right, and all of them
to the one at the top. Where there is no length to fall back to, the side stays as it was. The
handler stores the sides over one another instead, and `run_padding` says that this comes to the
same.
-/

namespace ImageRequest

namespace Padding

/-- The names that the lengths are rejected under. -/
def labels : List String :=
  ["padding top (+all)", "padding right (+left)", "padding bottom", "padding left"]

/-- A token that is left empty or gives a length. -/
def Readable (token : String) : Prop :=
  token = "" ∨ (Numeral.natUpTo? 4294967295 token).isSome = true

instance (token : String) : Decidable (Readable token) :=
  inferInstanceAs (Decidable (_ ∨ _))

/-- The length that is given at one place of the arguments, if there is a token and it is not empty.
-/
def length? (arguments : List String) (index : Nat) : Option Nat :=
  arguments[index]?.bind (Numeral.natUpTo? 4294967295)

/-- The padding after some lengths. It is taken into account if there is space on some side. -/
def cascade (before : Padding) (length? : Nat → Option Nat) : Padding :=
  let top := (length? 0).getD before.top
  let right := ((length? 1).or (length? 0)).getD before.right
  let bottom := ((length? 2).or (length? 0)).getD before.bottom
  let left := ((length? 3).or ((length? 1).or (length? 0))).getD before.left
  { enabled := decide (top ≠ 0 ∨ right ≠ 0 ∨ bottom ≠ 0 ∨ left ≠ 0), top, right, bottom, left }

/-- The changes that some lengths ask for. -/
def changes (length? : Nat → Option Nat) : List Edit :=
  .enable :: (((length? 0).map .all).toList ++ ((length? 1).map .sides).toList ++
    ((length? 2).map .bottom).toList ++ ((length? 3).map .left).toList ++ [.disableIfEmpty])

theorem apply_disableIfEmpty (top right bottom left : Nat) :
    Edit.disableIfEmpty.apply { enabled := true, top, right, bottom, left } =
      { enabled := decide (top ≠ 0 ∨ right ≠ 0 ∨ bottom ≠ 0 ∨ left ≠ 0)
        top, right, bottom, left } := by
  by_cases space : top ≠ 0 ∨ right ≠ 0 ∨ bottom ≠ 0 ∨ left ≠ 0
  · have filled : isEmpty { enabled := true, top, right, bottom, left } = false := by
      simp only [isEmpty, Bool.and_eq_false_iff, beq_eq_false_iff_ne, or_assoc]
      exact space
    rw [Edit.apply, filled, decide_eq_true space]
    rfl
  · simp only [ne_eq, not_or, Decidable.not_not] at space
    obtain ⟨rfl, rfl, rfl, rfl⟩ := space
    rfl

/-- The sides are written from the top to the left, and a later change overwrites an earlier one. -/
theorem foldl_changes (before : Padding) (length? : Nat → Option Nat) :
    (changes length?).foldl (fun padding edit => edit.apply padding) before =
      before.cascade length? := by
  rw [changes, List.foldl_cons, List.foldl_append, List.foldl_cons, List.foldl_nil, cascade]
  -- which lengths are given settles which change was the last one for each side
  cases length? 0 <;> cases length? 1 <;> cases length? 2 <;> cases length? 3 <;>
    exact apply_disableIfEmpty _ _ _ _

end Padding

namespace Script

open Padding (labels Readable length? changes cascade)

variable {arguments : List String} {index : Nat} {token : String}

/-- A length that is given is written, and without one nothing is done. -/
theorem slot_paddingLength (readable : ∀ token ∈ arguments[index]?, Readable token)
    (label : String) (edit : Nat → Padding.Edit) :
    slot arguments index (paddingLength label edit) =
      { edits := ((length? arguments index).map edit).toList.map .padding
        warnings := []
        rejection? := none } := by
  cases given : arguments[index]? with
  | none =>
      rw [slot, length?, given]
      rfl
  | some token =>
      rcases readable token given with rfl | isLength
      · rw [slot, length?, given]
        rfl
      · have filled : token ≠ "" := by
          rintro rfl
          cases isLength
        obtain ⟨value, read⟩ := Option.isSome_iff_exists.1 isLength
        rw [slot_of_ne given filled, paddingLength, Token.dimension, length?, given,
          Option.bind_some, read]
        rfl

theorem rejection?_slot_paddingLength (given : arguments[index]? = some token)
    (unreadable : ¬ Readable token) (label : String) (edit : Nat → Padding.Edit) :
    (slot arguments index (paddingLength label edit)).rejection? =
      some (.invalidValue label token) := by
  obtain ⟨filled, none⟩ := not_or.1 unreadable
  rw [slot_of_ne given filled, paddingLength, Token.dimension, Option.not_isSome_iff_eq_none.1 none]
  rfl

theorem padding_of_few (few : 1 ≤ arguments.length ∧ arguments.length ≤ 4) :
    padding arguments =
      write (.padding .enable) ++
        (paddingLengths arguments ++ write (.padding .disableIfEmpty)) := by
  have counted : ¬ (arguments.isEmpty || 4 < arguments.length) = true := by
    simp only [Bool.or_eq_true, List.isEmpty_iff_length_eq_zero, decide_eq_true_eq]
    omega
  simp only [padding, if_neg counted, paddingLengths, append_assoc]

/-- Without a token that is neither empty nor a length, all changes are made. -/
theorem padding_of_readable (few : 1 ≤ arguments.length ∧ arguments.length ≤ 4)
    (readable : ∀ token ∈ arguments, Readable token) :
    padding arguments =
      { edits := (changes (length? arguments)).map .padding
        warnings := []
        rejection? := none } := by
  have each (index : Nat) : ∀ token ∈ arguments[index]?, Readable token :=
    fun token given => readable token (List.mem_of_getElem? given)
  rw [padding_of_few few, paddingLengths, slot_paddingLength (each 0), slot_paddingLength (each 1),
    slot_paddingLength (each 2), slot_paddingLength (each 3)]
  simp only [changes, List.map_cons, List.map_append]
  rfl

theorem rejection?_paddingLengths (within : index < 4)
    (earlier : ∀ before < index, ∀ token ∈ arguments[before]?, Readable token)
    (given : arguments[index]? = some token) (unreadable : ¬ Readable token) :
    ∃ label, labels[index]? = some label ∧
      (paddingLengths arguments).rejection? = some (.invalidValue label token) := by
  have passes (before : Nat) (less : before < index) (label : String) (edit : Nat → Padding.Edit) :
      (slot arguments before (paddingLength label edit)).rejection? = none := by
    rw [slot_paddingLength (earlier before less)]
  have refuses := rejection?_slot_paddingLength given unreadable
  simp only [paddingLengths, rejection?_append]
  rcases index with _ | _ | _ | _ | index
  · exact ⟨_, rfl, by rw [refuses]; rfl⟩
  · exact ⟨_, rfl, by rw [passes 0 (by decide), refuses]; rfl⟩
  · exact ⟨_, rfl, by rw [passes 0 (by decide), passes 1 (by decide), refuses]; rfl⟩
  · refine ⟨_, rfl, ?_⟩
    rw [passes 0 (by decide), passes 1 (by decide), passes 2 (by decide), refuses]
    rfl
  · omega

/-- The first token that cannot be read is rejected, under the name of its own length. -/
theorem rejection?_padding_of_unreadable (few : arguments.length ≤ 4)
    (given : arguments[index]? = some token)
    (earlier : ∀ other ∈ arguments.take index, Readable other) (unreadable : ¬ Readable token) :
    ∃ label, labels[index]? = some label ∧
      (padding arguments).rejection? = some (.invalidValue label token) := by
  have within : index < arguments.length := (List.getElem?_eq_some_iff.1 given).1
  have readable : ∀ before < index, ∀ token ∈ arguments[before]?, Readable token := by
    intro before less token there
    refine earlier token (List.mem_of_getElem? (i := before) ?_)
    rw [List.getElem?_take_of_lt less]
    exact there
  obtain ⟨label, named, rejected⟩ :=
    rejection?_paddingLengths (Nat.lt_of_lt_of_le within few) readable given unreadable
  refine ⟨label, named, ?_⟩
  rw [padding_of_few ⟨Nat.lt_of_le_of_lt (Nat.zero_le index) within, few⟩, rejection?_append,
    rejection?_append, rejected]
  rfl

end Script

/-- Edits of the padding, one after the other, change nothing else. -/
theorem Edit.applyAll_map_padding (edits : List Padding.Edit) (options : Options) :
    applyAll (edits.map .padding) options =
      { options with
        padding := edits.foldl (fun padding edit => edit.apply padding) options.padding } := by
  induction edits generalizing options with
  | nil => rfl
  | cons edit edits ih =>
      rw [List.map_cons, applyAll_cons, ih]
      rfl

open Padding in
/-- Up to four tokens that are empty or lengths change the padding to their cascade, and nothing
else. The first token that is neither is rejected, under the name of the length that it stands for,
and so are too few or too many tokens, without any change. -/
theorem Handler.run_padding (arguments : List String) (options : Options) :
    (1 ≤ arguments.length ∧ arguments.length ≤ 4 → (∀ token ∈ arguments, Readable token) →
      (padding arguments).run options =
        { options := { options with padding := options.padding.cascade (length? arguments) }
          warnings := []
          rejection? := none }) ∧
    (arguments.length ≤ 4 → ∀ (index : Nat) (token : String), arguments[index]? = some token →
      (∀ earlier ∈ arguments.take index, Readable earlier) → ¬ Readable token →
      ∃ label, labels[index]? = some label ∧
        ((padding arguments).run options).rejection? = some (.invalidValue label token)) ∧
    (¬ (1 ≤ arguments.length ∧ arguments.length ≤ 4) →
      (padding arguments).run options =
        { options
          warnings := []
          rejection? := some (.invalidArguments "padding" arguments) }) := by
  refine ⟨fun few readable => ?_, fun few index token given earlier unreadable => ?_,
    fun wrong => ?_⟩
  · rw [(Runs.padding arguments).run_eq, Script.padding_of_readable few readable, Script.run,
      Edit.applyAll_map_padding, foldl_changes]
  · rw [(Runs.padding arguments).run_eq]
    exact Script.rejection?_padding_of_unreadable few given earlier unreadable
  · have miscounted : (arguments.isEmpty || 4 < arguments.length) = true := by
      simp only [Bool.or_eq_true, List.isEmpty_iff_length_eq_zero, decide_eq_true_eq]
      omega
    rw [padding, if_pos miscounted]
    rfl

/-- Options with a padding that is left out of account. -/
def Options.padded : Options :=
  { ({} : ProcessingConfig).baseline with
    padding := { enabled := false, top := 1, right := 2, bottom := 0, left := 4 } }

/-- An empty top keeps the top and the bottom, the length on the right replaces the one on the left
as well, and of two tokens that are no lengths the first one is rejected. -/
theorem Handler.run_padding_padded :
    (padding ["", "5"]).run Options.padded =
        { options := { Options.padded with
            padding := { enabled := true, top := 1, right := 5, bottom := 0, left := 5 } }
          warnings := []
          rejection? := none } ∧
      ((padding ["7", "", "-", "x"]).run Options.padded).rejection? =
        some (.invalidValue "padding bottom" "-") ∧
      (padding []).run Options.padded =
        { options := Options.padded
          warnings := []
          rejection? := some (.invalidArguments "padding" []) } := by
  obtain ⟨cascades, -, -⟩ := run_padding ["", "5"] Options.padded
  obtain ⟨-, rejects, -⟩ := run_padding ["7", "", "-", "x"] Options.padded
  obtain ⟨-, -, miscounts⟩ := run_padding [] Options.padded
  have sides : Options.padded.padding.cascade (Padding.length? ["", "5"]) =
      { enabled := true, top := 1, right := 5, bottom := 0, left := 5 } := by decide
  obtain ⟨label, named, rejected⟩ := rejects (by decide) 2 "-" rfl (by decide) (by decide)
  cases named
  exact ⟨sides ▸ cascades (by decide) (by decide), rejected, miscounts (by decide)⟩

end ImageRequest
