import ImageRequest.Proofs.Script
import Mathlib.Data.Bool.Basic

/-!
# Arguments that count

An argument counts for a script if some other token in its place makes for a script apart: one that
is rejected, or one that leaves other options wherever the two are run (`Script.Counts`).

Most readers refuse the token `?`, so that it shows for every argument that is read by one of them
that it is read. A truth value is never refused, but the opposite one is written in its place, and
nothing that comes later in the same script writes there again.
-/

namespace ImageRequest

namespace Script

/-- The script ends with a rejection. -/
def Refuses (script : Script) : Prop :=
  script.rejection? ≠ none

/-- The second script is rejected, or the two leave different options wherever they are run. -/
def Apart (first second : Script) : Prop :=
  second.Refuses ∨
    ∀ options, Edit.applyAll first.edits options ≠ Edit.applyAll second.edits options

/-- Some other token in place of an argument makes for a script apart. -/
def Counts (make : List String → Script) (arguments : List String) (index : Nat) : Prop :=
  ∃ token, token ≠ "" ∧ Apart (make arguments) (make (arguments.set index token))

/-! ### Scripts that are rejected -/

theorem Refuses.append_right {first : Script} (refuses : first.Refuses) (second : Script) :
    (first ++ second).Refuses :=
  fun accepted => refuses (rejection?_append_eq_none.1 accepted).1

theorem Refuses.append_left {second : Script} (refuses : second.Refuses) (first : Script) :
    (first ++ second).Refuses :=
  fun accepted => refuses (rejection?_append_eq_none.1 accepted).2

theorem counts_of_refuses {make : List String → Script} {arguments : List String} {index : Nat}
    (refuses : (make (arguments.set index "?")).Refuses) : Counts make arguments index :=
  ⟨"?", by decide, .inl refuses⟩

/-! ### Scripts with another edit -/

/-- What comes before two scripts apart does not bring them together. -/
theorem Apart.append_left {first second : Script} (apart : Apart first second) {before : Script}
    (accepted : before.rejection? = none) : Apart (before ++ first) (before ++ second) := by
  rcases apart with refuses | differ
  · exact .inl (refuses.append_left before)
  · refine .inr fun options => ?_
    rw [edits_append accepted, edits_append accepted, Edit.applyAll_append, Edit.applyAll_append]
    exact differ _

/-- Nor does what comes after them, if it writes nothing that tells the two apart. -/
theorem apart_append_right {α : Type} (view : Options → α) {first second after : Script}
    (accepted : (first ++ after).rejection? = none) (accepted' : second.rejection? = none)
    (differ : ∀ options, view (Edit.applyAll first.edits options) ≠
      view (Edit.applyAll second.edits options))
    (keeps : after.AllEdits fun edit => ∀ options, view (edit.apply options) = view options) :
    Apart (first ++ after) (second ++ after) := by
  obtain ⟨early, late⟩ := rejection?_append_eq_none.1 accepted
  have kept : ∀ options, view (Edit.applyAll after.edits options) = view options := by
    intro options
    refine Edit.applyAll_preserves (P := fun later => view later = view options) ?_ rfl
    intro edit mem later same
    rw [keeps late edit mem, same]
  refine .inr fun options same => ?_
  rw [edits_append early, edits_append accepted', Edit.applyAll_append,
    Edit.applyAll_append] at same
  have seen := congrArg view same
  rw [kept, kept] at seen
  exact differ options seen

/-- The word for the truth value that a token is not read as. -/
def opposite (token : String) : String :=
  if Token.bool token then "0" else "1"

theorem opposite_ne_empty (token : String) : opposite token ≠ "" := by
  rw [opposite]
  split <;> decide

theorem bool_opposite (token : String) : Token.bool (opposite token) = !Token.bool token := by
  rw [opposite]
  cases Token.bool token <;> decide

/-- A truth value and its opposite are told apart where they are written, whatever comes later in
another place. -/
theorem apart_flag {edit : Bool → Edit} {token : String} (view : Options → Bool)
    (writes : ∀ value options, view ((edit value).apply options) = value) {after : Script}
    (accepted : after.rejection? = none)
    (keeps : after.AllEdits fun edit => ∀ options, view (edit.apply options) = view options) :
    Apart (flag edit token ++ after) (flag edit (opposite token) ++ after) := by
  refine apart_append_right view (rejection?_append_eq_none.2 ⟨rfl, accepted⟩) rfl ?_ keeps
  intro options same
  change view ((edit _).apply options) = view ((edit _).apply options) at same
  rw [writes, writes, bool_opposite] at same
  exact Bool.not_ne_self _ same.symm

theorem apart_last_flag {edit : Bool → Edit} {token : String} (view : Options → Bool)
    (writes : ∀ value options, view ((edit value).apply options) = value) :
    Apart (flag edit token) (flag edit (opposite token)) := by
  have apart : Apart (flag edit token ++ done) (flag edit (opposite token) ++ done) :=
    apart_flag view writes rfl .done
  rwa [append_done, append_done] at apart

/-! ### One argument -/

/-- The only argument counts if some other token makes for a script apart. -/
theorem counts_single {label : String} {use : String → Script}
    (each : ∀ token, ∃ other, other ≠ "" ∧ Apart (use token) (use other)) {arguments : List String}
    {index : Nat} (within : index < arguments.length)
    (accepted : (single label arguments use).rejection? = none) :
    Counts (single label · use) arguments index := by
  unfold single at accepted
  split at accepted
  · rename_i token
    have first : index = 0 := by simpa using within
    obtain ⟨other, filled, apart⟩ := each token
    subst first
    exact ⟨other, filled, apart⟩
  · cases accepted

/-- So it does if the token `?` is refused. -/
theorem counts_single_of_refuses {label : String} {use : String → Script}
    (refuses : (use "?").Refuses) {arguments : List String} {index : Nat}
    (within : index < arguments.length)
    (accepted : (single label arguments use).rejection? = none) :
    Counts (single label · use) arguments index :=
  counts_single (fun _ => ⟨"?", by decide, .inl refuses⟩) within accepted

theorem counts_switch {label : String} {edit : Bool → Edit} (view : Options → Bool)
    (writes : ∀ value options, view ((edit value).apply options) = value) {arguments : List String}
    {index : Nat} (within : index < arguments.length)
    (accepted : (switch label edit arguments).rejection? = none) :
    Counts (switch label edit) arguments index := by
  refine counts_single (fun token => ?_) within accepted
  exact ⟨opposite token, opposite_ne_empty token, apart_last_flag view writes⟩

theorem counts_text {label : String} {edit : String → Edit} (view : Options → String)
    (writes : ∀ value options, view ((edit value).apply options) = value) {arguments : List String}
    {index : Nat} (within : index < arguments.length)
    (accepted : (single label arguments fun token => write (edit token)).rejection? = none) :
    Counts (single label · fun token => write (edit token)) arguments index := by
  refine counts_single (fun token => ⟨token ++ "?", ?_, .inr fun options same => ?_⟩) within
    accepted
  · intro empty
    exact absurd (String.append_eq_empty_iff.1 empty).2 (by decide)
  · have seen : view ((edit token).apply options) = view ((edit (token ++ "?")).apply options) :=
      congrArg view same
    rw [writes, writes] at seen
    have longer := congrArg String.length seen
    rw [String.length_append] at longer
    exact absurd longer (Nat.ne_of_lt (Nat.lt_add_of_pos_right (by decide)))

/-! ### Slots -/

theorem slot_set {arguments : List String} {index : Nat} {token : String}
    (within : index < arguments.length) (filled : token ≠ "") (use : String → Script) :
    slot (arguments.set index token) index use = use token :=
  slot_of_ne (List.getElem?_set_self within) filled use

theorem slot_set_mark {arguments : List String} {index : Nat} (within : index < arguments.length)
    (use : String → Script) : slot (arguments.set index "?") index use = use "?" :=
  slot_set within (by decide) use

theorem slot_of_empty {arguments : List String} {index : Nat}
    (given : arguments[index]? = some "") (use : String → Script) :
    slot arguments index use = done := by
  rw [slot, given]
  rfl

theorem slot_set_of_ne {arguments : List String} {index other : Nat} (different : index ≠ other)
    (token : String) (use : String → Script) :
    slot (arguments.set index token) other use = slot arguments other use := by
  rw [slot, slot, List.getElem?_set_ne different]

end Script

end ImageRequest
