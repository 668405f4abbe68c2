import ImageRequest.Proofs.Presets.Plain
import ImageRequest.Proofs.Setting.Fields
import Mathlib.Data.List.FinRange
import Mathlib.Data.Fin.VecNotation
import Mathlib.Logic.Equiv.Defs

/-!
# Directives in another order

Two directives conflict if there is a field that both can write. Directives that do not conflict may
change places: a list of directives that ask for no presets and any reordering of it, in which
directives that conflict stand in the same order, are rejected or go through together, and leave the
same options (`run_reordering`).

Of each field, a reordering keeps the list of the directives that can write it. That is all there
is to keep, since a field only depends on the edits of its own.
-/

namespace ImageRequest

namespace Directive

/-- The fields that a directive can write by itself. -/
def fields (directive : Directive) : List Field :=
  match Keyword.ofName? directive.name with
  | some (.setting setting) => setting.fields
  | _ => []

/-- Both directives can write the same field. -/
def Conflicts (first second : Directive) : Prop :=
  ∃ field ∈ first.fields, field ∈ second.fields

instance (first second : Directive) : Decidable (first.Conflicts second) :=
  inferInstanceAs (Decidable (∃ field ∈ first.fields, field ∈ second.fields))

theorem field_mem_fields (now : Int) (directive : Directive) :
    (directive.script now).AllEdits (·.field ∈ directive.fields) := by
  rw [script, fields]
  cases Keyword.ofName? directive.name with
  | none => exact .reject _
  | some keyword =>
      cases keyword with
      | setting setting => exact setting.field_mem_fields now directive.arguments
      | preset => exact .reject _

/-- The edits of a field come from the directives that can write it. -/
theorem filter_edits {now : Int} {directives : List Directive}
    (accepted : ∀ directive ∈ directives, (directive.script now).rejection? = none)
    (field : Field) :
    (directives.flatMap fun directive => (directive.script now).edits).filter (·.field = field) =
      (directives.filter (field ∈ ·.fields)).flatMap fun directive =>
        (directive.script now).edits.filter (·.field = field) := by
  induction directives with
  | nil => rfl
  | cons directive directives ih =>
      obtain ⟨first, rest⟩ := List.forall_mem_cons.1 accepted
      rw [List.flatMap_cons, List.filter_append, ih rest]
      by_cases writes : field ∈ directive.fields
      · rw [List.filter_cons_of_pos (by simpa using writes), List.flatMap_cons]
      · have none : (directive.script now).edits.filter (·.field = field) = [] := by
          refine List.filter_eq_nil_iff.2 fun edit mem same => writes ?_
          rw [← of_decide_eq_true same]
          exact directive.field_mem_fields now first edit mem
        rw [List.filter_cons_of_neg (by simpa using writes), none, List.nil_append]

/-- Where in a list the directives stand that can write a field. -/
def places (field : Field) (directives : List Directive) : List (Fin directives.length) :=
  (List.finRange directives.length).filter fun place => field ∈ (directives.get place).fields

theorem mem_places {field : Field} {directives : List Directive} {place : Fin directives.length} :
    place ∈ places field directives ↔ field ∈ (directives.get place).fields := by
  rw [places, List.mem_filter, decide_eq_true_iff]
  exact and_iff_right (List.mem_finRange place)

theorem pairwise_places (field : Field) (directives : List Directive) :
    (places field directives).Pairwise (· < ·) :=
  (List.pairwise_lt_finRange _).filter _

theorem map_places (field : Field) (directives : List Directive) :
    (places field directives).map directives.get = directives.filter (field ∈ ·.fields) := by
  conv_rhs => rw [← List.map_get_finRange directives, List.filter_map]
  rfl

end Directive

/-- The second list is the first one in another order, which is the same order for directives that
conflict. -/
structure Reordering (first second : List Directive) where
  /-- Where a directive of the first list stands in the second one. -/
  position : Fin first.length ≃ Fin second.length
  same : ∀ i, second.get (position i) = first.get i
  ordered : ∀ i j, i < j → (first.get i).Conflicts (first.get j) → position i < position j

namespace Reordering

open Directive

variable {first second : List Directive}

theorem mem_iff (reordering : Reordering first second) {directive : Directive} :
    directive ∈ second ↔ directive ∈ first := by
  rw [List.mem_iff_get, List.mem_iff_get, ← reordering.position.exists_congr_right]
  simp only [reordering.same]

/-- Directives that can write a common field go to their places in order. -/
theorem map_position_places (reordering : Reordering first second) (field : Field) :
    (places field first).map reordering.position = places field second := by
  -- both lists are increasing, so that it is enough that they have the same members
  have increasing : ((places field first).map reordering.position).Pairwise (· < ·) := by
    refine List.pairwise_map.2 (List.Pairwise.imp_of_mem ?_ (pairwise_places field first))
    intro i j writes writes' before
    exact reordering.ordered i j before ⟨field, mem_places.1 writes, mem_places.1 writes'⟩
  have members : ∀ place, place ∈ (places field first).map reordering.position ↔
      place ∈ places field second := by
    intro place
    obtain ⟨origin, rfl⟩ := reordering.position.surjective place
    rw [List.mem_map_of_injective reordering.position.injective, mem_places, mem_places,
      reordering.same]
  have perm := (List.perm_ext_iff_of_nodup increasing.nodup (pairwise_places field second).nodup).2
    members
  exact perm.eq_of_pairwise (fun _ _ _ _ less more => (lt_asymm less more).elim) increasing
    (pairwise_places field second)

/-- The directives that can write a field are the same in both lists, in the same order. -/
theorem filter_eq (reordering : Reordering first second) (field : Field) :
    first.filter (field ∈ ·.fields) = second.filter (field ∈ ·.fields) := by
  rw [← map_places, ← map_places, ← reordering.map_position_places, List.map_map]
  exact List.map_congr_left fun place _ => (reordering.same place).symm

end Reordering

namespace Presets

/-- A list of directives that ask for no presets and a reordering of it go through together, from
all options and at all times, and then they leave the same options in every field. -/
theorem run_reordering (presets : Presets) (now : Int) {first second : List Directive}
    (plain : ∀ directive ∈ first, Keyword.ofName? directive.name ≠ some .preset)
    (reordering : Reordering first second) (options : Options) :
    ((presets.run now first options).rejection? = none ↔
      (presets.run now second options).rejection? = none) ∧
    ((presets.run now first options).rejection? = none →
      (presets.run now first options).options = (presets.run now second options).options) := by
  have plain' : ∀ directive ∈ second, Keyword.ofName? directive.name ≠ some .preset :=
    fun directive mem => plain directive (reordering.mem_iff.1 mem)
  constructor
  · rw [rejection?_run plain, rejection?_run plain', List.findSome?_eq_none_iff,
      List.findSome?_eq_none_iff]
    exact forall_congr' fun directive => imp_congr_left reordering.mem_iff.symm
  · intro accepted
    rw [rejection?_run plain, List.findSome?_eq_none_iff] at accepted
    have accepted' : ∀ directive ∈ second, (directive.script now).rejection? = none :=
      fun directive mem => accepted directive (reordering.mem_iff.1 mem)
    rw [options_run plain accepted, options_run plain' accepted']
    refine Edit.applyAll_eq_of_filter (fun field => ?_) options
    rw [Directive.filter_edits accepted, Directive.filter_edits accepted', reordering.filter_eq]

/-- The third of four places goes to the front. -/
def thirdFirst : Fin 4 ≃ Fin 4 where
  toFun := ![1, 2, 0, 3]
  invFun := ![2, 0, 1, 3]
  left_inv := by decide
  right_inv := by decide

/-- A size between two widths, and a quality. -/
def widths : List Directive :=
  [{ name := "w", arguments := ["100"] }, { name := "s", arguments := ["", "20"] },
    { name := "q", arguments := ["7"] }, { name := "width", arguments := ["300"] }]

/-- The same with the quality in front. -/
def widthsLater : List Directive :=
  [{ name := "q", arguments := ["7"] }, { name := "w", arguments := ["100"] },
    { name := "s", arguments := ["", "20"] }, { name := "width", arguments := ["300"] }]

/-- The widths and the size stay in their order. -/
def qualityFirst : Reordering widths widthsLater where
  position := thirdFirst
  same := by decide
  ordered := by decide

theorem run_qualityFirst :
    (∀ directive ∈ widths, Keyword.ofName? directive.name ≠ some .preset) ∧
      (empty.run 0 widths (Options.start true true true [])).rejection? = none ∧
      (empty.run 0 widths (Options.start true true true [])).options =
        (empty.run 0 widthsLater (Options.start true true true [])).options := by
  have plain : ∀ directive ∈ widths, Keyword.ofName? directive.name ≠ some .preset := by decide
  have accepted : (empty.run 0 widths (Options.start true true true [])).rejection? = none := by
    rw [rejection?_run plain]
    decide
  exact ⟨plain, accepted, (run_reordering empty 0 plain qualityFirst _).2 accepted⟩

end Presets

end ImageRequest
