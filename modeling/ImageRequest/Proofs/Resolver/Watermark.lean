import ImageRequest.Proofs.Resolver.Gravity
import ImageRequest.Proofs.Setting.Fields

/-!
# Positions of resolved watermarks

A position of a watermark is either the token `re`, for a tiling, or the token of an anchor. The two
are kept in two places, and neither is cleared when the other one is written: the anchor is that of
the last position that names one, but a watermark that was tiled once stays so, whatever positions
come later.

`watermark_position_iff` says this of a single directive on any options and of whole requests.
`tiled_plain` is a request whose last position is an anchor and whose watermark is tiled.
-/

namespace ImageRequest

/-- What some positions, one after the other, make of a watermark. -/
structure Watermark.PlacedBy (positions : List String) (before after : Watermark) : Prop where
  replicate : after.replicate = true ↔ "re" ∈ positions ∨ before.replicate = true
  anchor : after.gravity.anchor =
    (positions.filterMap Anchor.ofToken?).getLast?.getD before.gravity.anchor

namespace Watermark.PlacedBy

theorem refl (watermark : Watermark) : PlacedBy [] watermark watermark :=
  ⟨by simp, rfl⟩

theorem trans {first second : List String} {before between after : Watermark}
    (early : PlacedBy first before between) (late : PlacedBy second between after) :
    PlacedBy (first ++ second) before after := by
  constructor
  · rw [late.replicate, early.replicate, List.mem_append]
    tauto
  · rw [late.anchor, early.anchor, List.filterMap_append, List.getLast?_append]
    cases (second.filterMap Anchor.ofToken?).getLast? <;> rfl

/-- What comes first places the watermark before the rest does. -/
theorem cons {α : Type} {position? : α → Option String} {item : α} {items : List α}
    {before between after : Watermark} (early : PlacedBy (position? item).toList before between)
    (late : PlacedBy (items.filterMap position?) between after) :
    PlacedBy ((item :: items).filterMap position?) before after := by
  have both := early.trans late
  rw [List.filterMap_cons]
  cases given : position? item with
  | none => rwa [given] at both
  | some position => rwa [given] at both

end Watermark.PlacedBy

namespace Edit

/-- The position that an edit writes, by its token. -/
def position? : Edit → Option String
  | .watermark .replicate => some "re"
  | .watermark (.anchor anchor) => some anchor.token
  | _ => none

theorem position?_of_field_ne {edit : Edit} (other : edit.field ≠ .watermark) :
    edit.position? = none := by
  cases edit with
  | watermark edit => exact absurd rfl other
  | _ => rfl

theorem placedBy_apply (edit : Edit) (options : Options) :
    Watermark.PlacedBy edit.position?.toList options.watermark (edit.apply options).watermark := by
  cases edit with
  | watermark edit =>
      cases edit with
      | replicate =>
          have noAnchor : Anchor.ofToken? "re" = none := by decide
          exact ⟨by simp [apply, Watermark.Edit.apply, position?],
            by simp [apply, Watermark.Edit.apply, position?, noAnchor]⟩
      | anchor anchor =>
          have notTiled : "re" ≠ anchor.token := by cases anchor <;> decide
          exact ⟨by simp [apply, Watermark.Edit.apply, position?, notTiled],
            by simp [apply, Watermark.Edit.apply, position?, Anchor.ofToken?_token]⟩
      | _ => exact ⟨by simp [apply, Watermark.Edit.apply, position?], rfl⟩
  | _ => exact .refl options.watermark

theorem placedBy_applyAll (edits : List Edit) (options : Options) :
    Watermark.PlacedBy (edits.filterMap position?) options.watermark
      (applyAll edits options).watermark := by
  induction edits generalizing options with
  | nil => exact .refl options.watermark
  | cons edit edits ih =>
      rw [applyAll_cons]
      exact (edit.placedBy_apply options).cons (ih (edit.apply options))

end Edit

namespace Script

/-- A script that writes no position has none among its edits. -/
theorem AllEdits.filterMap_position? {script : Script}
    (none : script.AllEdits (·.position? = .none)) (accepted : script.rejection? = .none) :
    script.edits.filterMap Edit.position? = [] :=
  List.filterMap_eq_nil_iff.2 (none accepted)

theorem filterMap_position?_position {token : String}
    (accepted : (position token).rejection? = none) :
    (position token).edits.filterMap Edit.position? = [token] := by
  unfold position at accepted ⊢
  split at accepted
  · rename_i tiled
    simp [tiled, write, Edit.position?]
  · rename_i notTiled
    obtain ⟨anchor, read, written⟩ := store_eq_write accepted
    rw [Token.require_eq_ok, Option.filter_eq_some_iff] at read
    rw [if_neg notTiled, written]
    simp [write, Edit.position?, Anchor.ofToken?_eq_some_iff.1 read.1]

theorem filterMap_position?_slot {arguments : List String} {index : Nat}
    (accepted : (slot arguments index position).rejection? = none) :
    (slot arguments index position).edits.filterMap Edit.position? =
      (arguments[index]?.filter (· ≠ "")).toList := by
  cases given : arguments[index]? with
  | none =>
      rw [slot, given]
      rfl
  | some token =>
      by_cases empty : token = ""
      · subst empty
        rw [slot, given]
        rfl
      · rw [slot_of_ne given empty] at accepted ⊢
        simp [filterMap_position?_position accepted, Option.filter, empty]

/-- Of all that is written for a watermark only the position counts. -/
theorem filterMap_position?_watermark {arguments : List String}
    (accepted : (watermark arguments).rejection? = none) :
    (watermark arguments).edits.filterMap Edit.position? =
      (arguments[1]?.filter (· ≠ "")).toList := by
  unfold watermark at accepted ⊢
  split at accepted
  · cases accepted
  · rename_i opacity rest
    split at accepted
    · cases accepted
    · rename_i few
      have x : AllEdits (·.position? = none)
          (slot rest 1 (watermarkOffset "watermark X offset" .x)) :=
        .slot fun _ => .store fun _ _ => rfl
      have y : AllEdits (·.position? = none)
          (slot rest 2 (watermarkOffset "watermark Y offset" .y)) :=
        .slot fun _ => .store fun _ _ => rfl
      have scale : AllEdits (·.position? = none) (slot rest 3 fun token =>
          store (fun value => .watermark (.scale value))
            (Token.nonNegativeFloat "watermark scale" token)) :=
        .slot fun _ => .store fun _ _ => rfl
      obtain ⟨accepted₃, acceptedScale⟩ := rejection?_append_eq_none.1 accepted
      obtain ⟨accepted₂, acceptedY⟩ := rejection?_append_eq_none.1 accepted₃
      obtain ⟨accepted₁, acceptedX⟩ := rejection?_append_eq_none.1 accepted₂
      obtain ⟨acceptedOpacity, acceptedPosition⟩ := rejection?_append_eq_none.1 accepted₁
      obtain ⟨value, -, opacity⟩ := store_eq_write acceptedOpacity
      simp only [if_neg few]
      rw [edits_append accepted₃, edits_append accepted₂, edits_append accepted₁,
        edits_append acceptedOpacity, opacity]
      simp only [List.filterMap_append, scale.filterMap_position? acceptedScale,
        y.filterMap_position? acceptedY, x.filterMap_position? acceptedX,
        filterMap_position?_slot acceptedPosition, List.append_nil]
      rfl

end Script

namespace Setting

/-- The token of a position that the arguments of a setting give, if any. -/
def position? (setting : Setting) (arguments : List String) : Option String :=
  match setting with
  | watermark => arguments[1]?.filter (· ≠ "")
  | _ => none

/-- A setting that is not rejected writes the position that it is given and no other one. -/
theorem filterMap_position?_script {now : Int} {setting : Setting} {arguments : List String}
    (accepted : (setting.script now arguments).rejection? = none) :
    (setting.script now arguments).edits.filterMap Edit.position? =
      (setting.position? arguments).toList := by
  by_cases marks : setting = watermark
  · subst marks
    exact Script.filterMap_position?_watermark accepted
  · have nothing : setting.position? arguments = none := by
      cases setting <;> first | rfl | exact absurd rfl marks
    have others : .watermark ∉ setting.fields := by
      cases setting <;> first | decide | exact absurd rfl marks
    rw [nothing]
    exact filterMap_edits_eq_nil (fun _ => Edit.position?_of_field_ne) others accepted

theorem placedBy_script {now : Int} {setting : Setting} {arguments : List String}
    (accepted : (setting.script now arguments).rejection? = none) (options : Options) :
    Watermark.PlacedBy (setting.position? arguments).toList options.watermark
      ((setting.script now arguments).run options).options.watermark := by
  rw [← filterMap_position?_script accepted]
  exact Edit.placedBy_applyAll _ options

end Setting

namespace Step

/-- The position that a step gives, if any. -/
def position? : Step → Option String
  | set setting arguments => setting.position? arguments
  | _ => none

/-- Steps that are all made leave a watermark where their positions put it. -/
theorem placedBy_applyAll {now : Int} {steps : List Step} {options : Options}
    (accepted : (applyAll now steps options).rejection? = none) :
    Watermark.PlacedBy (steps.filterMap position?) options.watermark
      (applyAll now steps options).options.watermark := by
  induction steps generalizing options with
  | nil => exact .refl options.watermark
  | cons step steps ih =>
      rw [applyAll_cons] at accepted ⊢
      obtain ⟨first, rest⟩ := Outcome.rejection?_andThen_eq_none.1 accepted
      have own : Watermark.PlacedBy step.position?.toList options.watermark
          (step.apply now options).options.watermark := by
        cases step with
        | set setting arguments => exact Setting.placedBy_script first options
        | _ => exact .refl options.watermark
      rw [Outcome.options_andThen first]
      exact own.cons (ih rest)

end Step

/-- The positions that the directives of an agenda give, when no preset has been used before. -/
def Presets.positions (presets : Presets) (agenda : List Directive) : List String :=
  (presets.steps agenda []).filterMap Step.position?

namespace Resolver

variable {resolver : Resolver} {now : Int} {headers : Headers}

/-- The positions that the directives of a path give, those of the default preset before them. -/
def positions (resolver : Resolver) (path : String) : List String :=
  resolver.presets.positions (resolver.agenda path)

theorem Built.watermark_initialOptions (built : resolver.Built) (headers : Headers) :
    (resolver.initialOptions headers).watermark =
      { enabled := false, opacity := 1.0, replicate := false, gravity := .at .center,
        scale := 0.0 } := by
  obtain ⟨preferWebp, enforceWebp, preferAvif, enforceAvif, width, dpr, same⟩ :=
    built.exists_initialOptions headers
  rw [same]
  rfl

theorem watermark_finish (source : Source) (options : Options) :
    (finish source options).options.watermark = options.watermark := by
  obtain ⟨format?, same⟩ := exists_options_finish source options
  rw [same]

/-- A request that goes through leaves its watermark where its positions put it. -/
theorem placedBy_of_resolve (built : resolver.Built) {path : String} {resolved : ResolvedRequest}
    (ok : (resolver.resolve now headers path).result = .ok resolved) :
    Watermark.PlacedBy (resolver.positions path) (resolver.initialOptions headers).watermark
      resolved.options.watermark := by
  obtain ⟨source, -, accepted, rfl⟩ := exists_finish_of_resolve ok
  rw [Presets.run_eq_applyAll_steps, built.usedPresets_initialOptions] at accepted ⊢
  rw [watermark_finish]
  exact Step.placedBy_applyAll accepted

/-- A watermark directive with a position that goes through leaves a tiled watermark exactly if it
asks for a tiling or the watermark was tiled before, and the anchor that it names. So a request that
goes through, with a signature or without, has a tiled watermark exactly if one of its positions
asks for a tiling, and the anchor of the last position that names one. -/
theorem watermark_position_iff (built : resolver.Built) (now : Int) (headers : Headers) :
    (∀ (presets : Presets) (directive : Directive) (token : String) (options : Options),
      Keyword.ofName? directive.name = some (.setting .watermark) →
      directive.arguments[1]? = some token → token ≠ "" →
      (presets.run now [directive] options).rejection? = none →
      let watermark := (presets.run now [directive] options).options.watermark
      (watermark.replicate = true ↔ token = "re" ∨ options.watermark.replicate = true) ∧
        ∀ anchor, Anchor.ofToken? token = some anchor → watermark.gravity.anchor = anchor) ∧
    (∀ path resolved, (resolver.resolve now headers path).result = .ok resolved →
      (resolved.options.watermark.replicate = true ↔ "re" ∈ resolver.positions path) ∧
        resolved.options.watermark.gravity.anchor =
          ((resolver.positions path).filterMap Anchor.ofToken?).getLast?.getD .center) ∧
    (∀ path resolved, (resolver.resolveSigned now headers path).result = .ok resolved →
      ∃ signature unsigned, splitSignature? path = some (signature, unsigned) ∧
        (resolved.options.watermark.replicate = true ↔ "re" ∈ resolver.positions unsigned) ∧
        resolved.options.watermark.gravity.anchor =
          ((resolver.positions unsigned).filterMap Anchor.ofToken?).getLast?.getD .center) := by
  have whole : ∀ path resolved, (resolver.resolve now headers path).result = .ok resolved →
      (resolved.options.watermark.replicate = true ↔ "re" ∈ resolver.positions path) ∧
        resolved.options.watermark.gravity.anchor =
          ((resolver.positions path).filterMap Anchor.ofToken?).getLast?.getD .center := by
    intro path resolved ok
    obtain ⟨replicate, anchor⟩ := placedBy_of_resolve built ok
    rw [built.watermark_initialOptions headers] at replicate anchor
    exact ⟨by simpa using replicate, anchor⟩
  refine ⟨?_, whole, ?_⟩
  · intro presets directive token options known given filled accepted
    rw [Presets.run_setting_singleton known] at accepted
    simp only [Presets.run_setting_singleton known]
    have placed := Setting.placedBy_script accepted options
    have position : Setting.watermark.position? directive.arguments = some token := by
      simp [Setting.position?, given, Option.filter, filled]
    rw [position] at placed
    obtain ⟨replicate, anchor⟩ := placed
    rw [Option.toList_some, List.mem_singleton, @eq_comm _ "re"] at replicate
    refine ⟨replicate, fun named read => ?_⟩
    simpa [read] using anchor
  · intro path resolved ok
    obtain ⟨signature, unsigned, split, ok⟩ := resolve_of_resolveSigned ok
    exact ⟨signature, unsigned, split, whole unsigned resolved ok⟩

/-- Of two anchors the last one counts, and a position that is left empty does not. -/
theorem watermark_position_plain :
    plain.Built ∧
      ∃ resolved, (plain.resolve 0 [] "/wm:1:no/wm:0.5:soea/wm:1::3/plain/a").result = .ok resolved ∧
        resolved.options.watermark.replicate = false ∧
        "re" ∉ plain.positions "/wm:1:no/wm:0.5:soea/wm:1::3/plain/a" ∧
        resolved.options.watermark.gravity.anchor = .southEast ∧
        ((plain.positions "/wm:1:no/wm:0.5:soea/wm:1::3/plain/a").filterMap
          Anchor.ofToken?).getLast?.getD .center = .southEast := by
  have evaluated : ∃ resolved,
      (plain.resolve 0 [] "/wm:1:no/wm:0.5:soea/wm:1::3/plain/a").result = .ok resolved ∧
        (resolved.options.watermark.replicate, resolved.options.watermark.gravity.anchor) =
          (false, .southEast) :=
    exists_resolve_plain
      (fun options => (options.watermark.replicate, options.watermark.gravity.anchor))
      (by decide) (by decide +kernel) (by decide +kernel)
  obtain ⟨resolved, ok, left⟩ := evaluated
  obtain ⟨once, southEast⟩ := Prod.mk.inj left
  obtain ⟨replicate, anchor⟩ := (watermark_position_iff built_plain 0 []).2.1 _ resolved ok
  refine ⟨built_plain, resolved, ok, once, fun tiled => ?_, southEast, anchor ▸ southEast⟩
  rw [replicate.2 tiled] at once
  cases once

/-- A watermark stays tiled although the last position is an anchor. -/
theorem tiled_plain :
    plain.Built ∧
      (plain.agenda "/wm:1:re/wm:1:soea/plain/a").getLast? =
        some { name := "wm", arguments := ["1", "soea"] } ∧
      ∃ resolved, (plain.resolve 0 [] "/wm:1:re/wm:1:soea/plain/a").result = .ok resolved ∧
        resolved.options.watermark.gravity.anchor = .southEast ∧
        ¬ (resolved.options.watermark.replicate = true ↔ "soea" = "re") := by
  have evaluated : ∃ resolved,
      (plain.resolve 0 [] "/wm:1:re/wm:1:soea/plain/a").result = .ok resolved ∧
        (resolved.options.watermark.replicate, resolved.options.watermark.gravity.anchor) =
          (true, .southEast) :=
    exists_resolve_plain
      (fun options => (options.watermark.replicate, options.watermark.gravity.anchor))
      (by decide) (by decide +kernel) (by decide +kernel)
  obtain ⟨resolved, ok, left⟩ := evaluated
  obtain ⟨tiled, southEast⟩ := Prod.mk.inj left
  refine ⟨built_plain, by decide +kernel, resolved, ok, southEast, fun last => ?_⟩
  exact absurd (last.1 tiled) (by decide)

end Resolver

end ImageRequest
