import ImageRequest.Config.Reading
import Mathlib.Data.List.Basic

/-!
# Variables in the text of a configuration

Where a text refers to a variable can be said without going through the text: it does so behind some
characters if the reference stands there (`RefersAt`). A template is made of these references and of
the characters between them, and of nothing else (`Template.Cuts`). As a reference has no second one
in it, reading from the left misses none of them, and what is put in for one is never looked at
again (`Config.ofTextWith_eq_filled`).
-/

namespace ImageRequest

/-- Behind some characters, a text refers to a variable, and other characters follow. -/
structure RefersAt (before : List Char) (name : String) (after text : List Char) : Prop where
  isName : TemplatePart.isName name.toList = true
  same : text = before ++ ((TemplatePart.reference name).text ++ after)

/-- A variable is the first one that is not set, of those that a text refers to. -/
def IsFirstUnset (environment : Environment) (name : String) (text : List Char) : Prop :=
  ∃ before after, RefersAt before name after text ∧ environment name = none ∧
    ∀ earlier other rest, RefersAt earlier other rest text → earlier.length < before.length →
      environment other ≠ none

namespace TemplatePart

/-! ### The part at the beginning of a text -/

/-- A part is the one at the beginning of a text, and the given characters follow it: it is a
reference, or a character with which no reference begins. -/
inductive Leads : TemplatePart → List Char → Prop
  | char {c : Char} {rest : List Char} :
    (∀ name after, ¬ RefersAt [] name after (c :: rest)) → Leads (char c) rest
  | reference {name : String} (rest : List Char) :
    isName name.toList = true → Leads (reference name) rest

theorem all_isNameChar {name : List Char} (proper : isName name = true) :
    ∀ c ∈ name, isNameChar c = true := by
  cases name with
  | nil => cases proper
  | cons first name =>
      obtain ⟨begins, others⟩ := Bool.and_eq_true_iff.1 proper
      refine List.forall_mem_cons.2 ⟨?_, List.all_eq_true.1 others⟩
      rw [isNameChar, begins, Bool.true_or]

/-- A reference at the beginning of a text is found. -/
theorem reference?_append {name : List Char} (proper : isName name = true) (rest : List Char) :
    reference? (['$', '\x7b'] ++ name ++ '\x7d' :: rest) = some name := by
  have stop : isNameChar '\x7d' = false := by decide
  have taken : (name ++ '\x7d' :: rest).takeWhile isNameChar = name := by
    rw [List.takeWhile_append_of_pos (all_isNameChar proper), List.takeWhile_cons_of_neg (by simp [stop]),
      List.append_nil]
  have left : (name ++ '\x7d' :: rest).dropWhile isNameChar = '\x7d' :: rest := by
    rw [List.dropWhile_append_of_pos (all_isNameChar proper), List.dropWhile_cons_of_neg (by simp [stop])]
  simp [reference?, taken, left, proper]

theorem isName_of_reference? {chars name : List Char} (found : reference? chars = some name) :
    isName name = true := by
  rw [reference?.eq_def] at found
  split at found
  case h_2 => cases found
  case h_1 rest =>
    dsimp only at found
    split at found
    case isFalse => cases found
    case isTrue closed =>
      cases found
      exact (Bool.and_eq_true_iff.1 closed).1

theorem text_reference_append (name : String) (rest : List Char) :
    (reference name).text ++ rest = ['$', '\x7b'] ++ name.toList ++ '\x7d' :: rest := by
  simp [text]

theorem refersAt_nil_of_reference? {chars name : List Char} (found : reference? chars = some name) :
    ∃ rest, RefersAt [] (String.ofList name) rest chars := by
  obtain ⟨rest, rfl⟩ := eq_append_of_reference? found
  refine ⟨rest, ?_, ?_⟩
  · rw [String.toList_ofList]
    exact isName_of_reference? found
  · rw [List.nil_append, text_reference_append, String.toList_ofList]

theorem ofChars_of_reference? {c : Char} {rest name : List Char}
    (found : reference? (c :: rest) = some name) :
    ofChars 0 (c :: rest) =
      reference (String.ofList name) :: ofChars 0 (rest.drop (name.length + 2)) := by
  simp only [ofChars, found, ofChars_eq_drop (name.length + 2)]

/-- The part at the beginning of a text is read first, and then what follows it. -/
theorem Leads.ofChars_append {part : TemplatePart} {rest : List Char} (leads : part.Leads rest) :
    ofChars 0 (part.text ++ rest) = part :: ofChars 0 rest := by
  cases leads with
  | @char c rest none =>
      have unfound : reference? (c :: rest) = Option.none := by
        refine Option.eq_none_iff_forall_not_mem.2 fun name found => ?_
        obtain ⟨after, refers⟩ := refersAt_nil_of_reference? found
        exact none _ _ refers
      simp [text, ofChars, unfound]
  | @reference name rest proper =>
      have found := reference?_append proper rest
      rw [text_reference_append]
      rw [List.cons_append, List.cons_append] at found ⊢
      rw [ofChars_of_reference? found, String.ofList_toList]
      simp

theorem exists_leads {chars : List Char} (some : chars ≠ []) :
    ∃ (part : TemplatePart) (rest : List Char), chars = part.text ++ rest ∧ part.Leads rest := by
  by_cases refers : ∃ name after, RefersAt [] name after chars
  · obtain ⟨name, after, proper, same⟩ := refers
    exact ⟨_, after, same, .reference after proper⟩
  · obtain ⟨c, rest, rfl⟩ := List.exists_cons_of_ne_nil some
    refine ⟨_, rest, rfl, .char fun name after found => refers ⟨name, after, found⟩⟩

/-- Behind its first character, no reference has the character that a reference begins with. -/
theorem eq_nil_of_text_eq_append {name : String} (proper : isName name.toList = true)
    {before rest : List Char} (same : (TemplatePart.reference name).text = before ++ '$' :: rest) :
    before = [] := by
  cases before with
  | nil => rfl
  | cons first before =>
      have absent : '$' ∉ name.toList := fun mem => by
        have charged := all_isNameChar proper _ mem
        revert charged
        decide
      have later : ['\x7b'] ++ name.toList ++ ['\x7d'] = before ++ '$' :: rest := (List.cons.inj same).2
      have within : '$' ∈ ['\x7b'] ++ name.toList ++ ['\x7d'] := later ▸ by simp
      simp [absent] at within

theorem refersAt_nil_append_iff {name other : String} (proper : isName other.toList = true)
    {rest after : List Char} :
    RefersAt [] name after ((TemplatePart.reference other).text ++ rest) ↔
      other = name ∧ rest = after := by
  constructor
  · rintro ⟨proper', same⟩
    have found := reference?_append proper rest
    have found' := reference?_append proper' after
    rw [List.nil_append] at same
    rw [← text_reference_append] at found found'
    rw [same, found'] at found
    obtain rfl : name = other := String.toList_inj.1 (Option.some.inj found)
    exact ⟨rfl, List.append_cancel_left same⟩
  · rintro ⟨rfl, rfl⟩
    exact ⟨proper, rfl⟩

/-- What stands in place of a part when the variables have their values. -/
def filled (environment : Environment) : TemplatePart → List Char
  | char c => [c]
  | reference name => ((environment name).getD "").toList

theorem text_ne_nil (part : TemplatePart) : part.text ≠ [] := by
  cases part <;> simp [text]

/-- No second reference begins within the part at the beginning of a text. -/
theorem Leads.refersAt_append_iff {part : TemplatePart} {rest before after : List Char}
    {name : String} (leads : part.Leads rest) :
    RefersAt before name after (part.text ++ rest) ↔
      (before = [] ∧ part = .reference name ∧ rest = after) ∨
        ∃ later, before = part.text ++ later ∧ RefersAt later name after rest := by
  have behind : ∀ later, RefersAt later name after rest →
      RefersAt (part.text ++ later) name after (part.text ++ rest) := by
    rintro later ⟨proper, rfl⟩
    exact ⟨proper, (List.append_assoc _ _ _).symm⟩
  constructor
  · intro refers
    cases leads with
    | @char c rest none =>
        cases before with
        | nil => exact absurd refers (none name after)
        | cons first before =>
            obtain ⟨proper, same⟩ := refers
            obtain ⟨rfl, later⟩ := List.cons.inj same
            exact .inr ⟨before, rfl, proper, later⟩
    | @reference other rest proper =>
        obtain ⟨proper', same⟩ := refers
        -- a second reference begins at the first character of this one or behind all of it
        rcases List.append_eq_append_iff.1 same with ⟨later, front, back⟩ | ⟨inner, front, back⟩
        · exact .inr ⟨later, front, proper', back⟩
        · cases inner with
          | nil =>
              rw [List.append_nil] at front
              exact .inr ⟨[], by rw [front, List.append_nil], proper', back.symm⟩
          | cons first inner =>
              obtain rfl : '$' = first := (List.cons.inj back).1
              obtain rfl := eq_nil_of_text_eq_append proper front
              exact .inl ⟨rfl, (refersAt_nil_append_iff proper).1 ⟨proper', same⟩ |>.imp_left
                (congrArg TemplatePart.reference)⟩
  · rintro (⟨rfl, rfl, rfl⟩ | ⟨later, rfl, refers⟩)
    · cases leads with
      | reference rest proper => exact (refersAt_nil_append_iff proper).2 ⟨rfl, rfl⟩
    · exact behind later refers

end TemplatePart

namespace Template

/-! ### Reading from the left -/

/-- The parts of a text are read from the left. -/
inductive ReadFrom : Template → List Char → Prop
  | nil : ReadFrom [] []
  | cons {part : TemplatePart} {template : Template} {rest : List Char} :
    part.Leads rest → ReadFrom template rest → ReadFrom (part :: template) (part.text ++ rest)

theorem readFrom_ofChars (chars : List Char) : ReadFrom (TemplatePart.ofChars 0 chars) chars := by
  by_cases some : chars = []
  · subst some
    exact .nil
  · obtain ⟨part, rest, rfl, leads⟩ := TemplatePart.exists_leads some
    have shorter : rest.length < (part.text ++ rest).length := by
      cases part <;> simp [TemplatePart.text]; omega
    rw [leads.ofChars_append]
    exact .cons leads (readFrom_ofChars rest)
termination_by chars.length

theorem ReadFrom.flatMap_text {template : Template} {text : List Char}
    (read : template.ReadFrom text) : template.flatMap TemplatePart.text = text := by
  induction read with
  | nil => rfl
  | cons leads read ih => rw [List.flatMap_cons, ih]

theorem ReadFrom.ofChars_eq {template : Template} {text : List Char}
    (read : template.ReadFrom text) : TemplatePart.ofChars 0 text = template := by
  induction read with
  | nil => rfl
  | cons leads read ih => rw [leads.ofChars_append, ih]

/-- A reference among some parts is the first of them or one of the others. -/
theorem exists_cons_eq_append_iff {part : TemplatePart} {template : Template} {name : String}
    {P : Template → Template → Prop} :
    (∃ front back, part :: template = front ++ .reference name :: back ∧ P front back) ↔
      part = .reference name ∧ P [] template ∨
        ∃ front back, template = front ++ .reference name :: back ∧ P (part :: front) back := by
  constructor
  · rintro ⟨front, back, same, holds⟩
    cases front with
    | nil =>
        obtain ⟨rfl, rfl⟩ := List.cons.inj same
        exact .inl ⟨rfl, holds⟩
    | cons first front =>
        obtain ⟨rfl, later⟩ := List.cons.inj same
        exact .inr ⟨front, back, later, holds⟩
  · rintro (⟨rfl, holds⟩ | ⟨front, back, rfl, holds⟩)
    · exact ⟨[], template, rfl, holds⟩
    · exact ⟨part :: front, back, rfl, holds⟩

/-- A template is made of the references of a text and of the characters between them: its parts
make up the text, and the text refers to variables exactly where a reference is one of them. -/
structure Cuts (template : Template) (text : List Char) : Prop where
  flatMap_text : template.flatMap TemplatePart.text = text
  refersAt_iff : ∀ before name after, RefersAt before name after text ↔
    ∃ front back, template = front ++ .reference name :: back ∧
      front.flatMap TemplatePart.text = before ∧ back.flatMap TemplatePart.text = after

/-- Reading from the left finds every reference. -/
theorem ReadFrom.cuts {template : Template} {text : List Char} (read : template.ReadFrom text) :
    template.Cuts text := by
  refine ⟨read.flatMap_text, fun before name after => ?_⟩
  induction read generalizing before with
  | nil =>
      constructor
      · rintro ⟨-, same⟩
        simp [TemplatePart.text] at same
      · rintro ⟨front, back, same, -⟩
        simp at same
  | @cons part template rest leads read ih =>
      rw [leads.refersAt_append_iff, exists_cons_eq_append_iff]
      refine or_congr ?_ ?_
      · rw [read.flatMap_text]
        constructor
        · rintro ⟨rfl, same, back⟩
          exact ⟨same, rfl, back⟩
        · rintro ⟨same, rfl, back⟩
          exact ⟨rfl, same, back⟩
      · constructor
        · rintro ⟨later, rfl, refers⟩
          obtain ⟨front, back, same, rfl, back'⟩ := (ih later).1 refers
          exact ⟨front, back, same, rfl, back'⟩
        · rintro ⟨front, back, same, rfl, back'⟩
          exact ⟨_, rfl, (ih _).2 ⟨front, back, same, rfl, back'⟩⟩

/-- The part in front of a template that cuts a text is the one at the beginning of the text. -/
theorem Cuts.leads {part : TemplatePart} {template : Template} {text : List Char}
    (cuts : Cuts (part :: template) text) : part.Leads (template.flatMap TemplatePart.text) := by
  have whole := cuts.flatMap_text
  rw [List.flatMap_cons] at whole
  subst whole
  cases part with
  | char c =>
      refine .char fun name after refers => ?_
      have among := (cuts.refersAt_iff _ _ _).1 refers
      rw [exists_cons_eq_append_iff] at among
      rcases among with ⟨same, -⟩ | ⟨front, back, -, nothing, -⟩
      · cases same
      · cases nothing
  | reference name =>
      exact .reference _ ((cuts.refersAt_iff [] name _).2 ⟨[], template, rfl, rfl, rfl⟩).isName

theorem Cuts.tail {part : TemplatePart} {template : Template} {text : List Char}
    (cuts : Cuts (part :: template) text) : Cuts template (template.flatMap TemplatePart.text) := by
  have leads := cuts.leads
  have some := part.text_ne_nil
  refine ⟨rfl, fun before name after => ?_⟩
  have whole := cuts.refersAt_iff (part.text ++ before) name after
  rw [← cuts.flatMap_text, List.flatMap_cons, leads.refersAt_append_iff] at whole
  rw [exists_cons_eq_append_iff] at whole
  simpa [some] using whole

/-- There is one way only to cut a text at its references, which is to read it from the left. -/
theorem cuts_iff {template : Template} {text : String} :
    template.Cuts text.toList ↔ template = ofText text := by
  have read : ∀ {template : Template} {text : List Char}, template.Cuts text →
      template.ReadFrom text := by
    intro template text cuts
    induction template generalizing text with
    | nil =>
        rw [← cuts.flatMap_text]
        exact .nil
    | cons part template ih =>
        rw [← cuts.flatMap_text, List.flatMap_cons]
        exact .cons cuts.leads (ih cuts.tail)
  constructor
  · exact fun cuts => (read cuts).ofChars_eq.symm
  · rintro rfl
    exact (readFrom_ofChars _).cuts

/-! ### Filling in -/

variable {environment : Environment} {template : Template}

/-- Filling in fails with the first variable that is not set, among the references from left to
right. -/
theorem fillChars_eq_error_iff {name : String} :
    template.fillChars environment = .error name ↔
      ∃ front back, template = front ++ .reference name :: back ∧ environment name = none ∧
        ∀ other, .reference other ∈ front → environment other ≠ none := by
  have map_eq : ∀ (add : List Char → List Char) (filled : Except String (List Char)),
      filled.map add = .error name ↔ filled = .error name := by
    intro add filled
    cases filled <;> simp [Except.map]
  induction template with
  | nil => simp [fillChars]
  | cons part template ih =>
      rw [exists_cons_eq_append_iff]
      cases part with
      | char c => simp [fillChars, map_eq, ih]
      | reference first =>
          rw [fillChars]
          cases value : environment first with
          | none =>
              constructor
              · rintro same
                cases same
                exact .inl ⟨rfl, value, nofun⟩
              · rintro (⟨same, -⟩ | ⟨front, back, -, -, set⟩)
                · cases same
                  rfl
                · exact absurd value (set first List.mem_cons_self)
          | some text =>
              have set : environment first ≠ none := by simp [value]
              simp only [map_eq, ih]
              constructor
              · rintro ⟨front, back, same, unset, others⟩
                refine .inr ⟨front, back, same, unset, fun other mem => ?_⟩
                rcases List.mem_cons.1 mem with same | mem
                · cases same
                  exact set
                · exact others other mem
              · rintro (⟨same, unset, -⟩ | ⟨front, back, same, unset, others⟩)
                · cases same
                  exact absurd unset set
                · exact ⟨front, back, same, unset, fun other mem =>
                    others other (List.mem_cons_of_mem _ mem)⟩

theorem fillChars_eq_ok
    (set : ∀ name, .reference name ∈ template → environment name ≠ none) :
    template.fillChars environment = .ok (template.flatMap (TemplatePart.filled environment)) := by
  induction template with
  | nil => rfl
  | cons part template ih =>
      have later := ih fun name mem => set name (List.mem_cons_of_mem _ mem)
      cases part with
      | char c => simp [fillChars, later, TemplatePart.filled, Except.map]
      | reference first =>
          obtain ⟨value, given⟩ := Option.ne_none_iff_exists'.1 (set first List.mem_cons_self)
          simp [fillChars, later, TemplatePart.filled, Except.map, given]

/-- Of the variables that a text refers to, the first that is not set is that of the first reference
to such a variable. -/
theorem Cuts.isFirstUnset_iff {text : List Char} {name : String} (cuts : template.Cuts text) :
    IsFirstUnset environment name text ↔
      ∃ front back, template = front ++ .reference name :: back ∧ environment name = none ∧
        ∀ other, .reference other ∈ front → environment other ≠ none := by
  constructor
  · rintro ⟨before, after, refers, unset, earlier⟩
    obtain ⟨front, back, same, rfl, -⟩ := (cuts.refersAt_iff _ _ _).1 refers
    refine ⟨front, back, same, unset, fun other mem => ?_⟩
    obtain ⟨first, middle, rfl⟩ := List.append_of_mem mem
    have split : template = first ++ .reference other :: (middle ++ .reference name :: back) := by
      rw [same, List.append_assoc, List.cons_append]
    refine earlier _ other _ ((cuts.refersAt_iff _ _ _).2 ⟨first, _, split, rfl, rfl⟩) ?_
    have positive := List.length_pos_of_ne_nil (TemplatePart.text_ne_nil (.reference other))
    simp only [List.flatMap_append, List.flatMap_cons, List.length_append]
    omega
  · rintro ⟨front, back, same, unset, others⟩
    refine ⟨_, _, (cuts.refersAt_iff _ _ _).2 ⟨front, back, same, rfl, rfl⟩, unset, ?_⟩
    intro earlier other rest refers shorter
    obtain ⟨front', back', same', rfl, -⟩ := (cuts.refersAt_iff _ _ _).1 refers
    rcases List.append_eq_append_iff.1 (same'.symm.trans same) with
      ⟨middle, rfl, later⟩ | ⟨middle, rfl, -⟩
    · cases middle with
      | nil => simp at shorter
      | cons part middle =>
          obtain rfl := (List.cons.inj later).1
          exact others other (by simp)
    · simp only [List.flatMap_append, List.length_append] at shorter
      omega

end Template

namespace Config

/-- A text can be cut at its references to variables in one way only. Whatever reads the text
without them, the configuration cannot be read because of a variable that is not set exactly if the
text refers to one, and the first of them is reported. Otherwise the reader gets the text in which
the value of its variable stands in place of each reference, and every other character is as it was.
`ofText` is the case of the reader for YAML. -/
theorem ofTextWith_eq_filled (read? : String → Option Config) (environment : Environment)
    (text : String) :
    ∃ template : Template,
      (∀ other : Template, other.Cuts text.toList ↔ other = template) ∧
      (∀ name, ofTextWith read? environment text = .error (.unset name) ↔
        IsFirstUnset environment name text.toList) ∧
      ((∀ before name after, RefersAt before name after text.toList → environment name ≠ none) →
        ofTextWith read? environment text =
          (read? (String.ofList (template.flatMap (TemplatePart.filled environment)))).elim
            (.error .malformed) .ok) := by
  have cuts : (Template.ofText text).Cuts text.toList := Template.cuts_iff.2 rfl
  refine ⟨Template.ofText text, fun other => Template.cuts_iff, fun name => ?_, fun set => ?_⟩
  · rw [cuts.isFirstUnset_iff, ← Template.fillChars_eq_error_iff, ofTextWith, Template.fill]
    cases (Template.ofText text).fillChars environment with
    | error other => simp [Except.map]
    | ok filled =>
        simp only [Except.map, reduceCtorEq, iff_false]
        cases read? (String.ofList filled) <;> simp
  · have among : ∀ name, .reference name ∈ Template.ofText text → environment name ≠ none := by
      intro name mem
      obtain ⟨front, back, same⟩ := List.append_of_mem mem
      exact set _ name _ ((cuts.refersAt_iff _ _ _).2 ⟨front, back, same, rfl, rfl⟩)
    rw [ofTextWith, Template.fill, Template.fillChars_eq_ok among]
    simp only [Except.map]
    cases read? (String.ofList _) <;> rfl

/-- An environment in which the value of the only variable looks like a reference. -/
def lookalike : Environment :=
  fun name => if name = "A" then some "$\x7bB\x7d" else none

/-- A reader that keeps the text it gets as the base address. -/
def keeping (text : String) : Option Config :=
  some { processing := { baseUrl := text } }

/-- References behind a dollar sign and inside braces, and some openings that are no references. -/
def nearMisses : String :=
  "$$\x7bA\x7d$\x7ba\x7d$\x7b\x7d$\x7b$\x7bA\x7d\x7d$\x7bA"

/-- The reader gets the openings as they are, and what stands for a reference is not looked at
again. With two variables behind them that are not set, the first of these is reported. -/
theorem ofTextWith_nearMisses :
    ofTextWith keeping lookalike nearMisses =
        .ok { processing :=
          { baseUrl := "$$\x7bB\x7d$\x7ba\x7d$\x7b\x7d$\x7b$\x7bB\x7d\x7d$\x7bA" } } ∧
      ofTextWith keeping lookalike (nearMisses ++ "$\x7bC\x7d$\x7bB\x7d") =
        .error (.unset "C") := by
  have cuts : (Template.ofText nearMisses).Cuts nearMisses.toList := Template.cuts_iff.2 rfl
  have among : ∀ name, .reference name ∈ Template.ofText nearMisses → lookalike name ≠ none := by
    have all : (Template.ofText nearMisses).names = ["A", "A"] := by decide
    intro name mem
    have named : name ∈ (Template.ofText nearMisses).names :=
      List.mem_filterMap.2 ⟨_, mem, rfl⟩
    rw [all] at named
    rcases List.mem_pair.1 named with rfl | rfl <;> nofun
  constructor
  · obtain ⟨template, only, -, filled⟩ := ofTextWith_eq_filled keeping lookalike nearMisses
    obtain rfl := (only _).1 cuts
    have text : String.ofList
        ((Template.ofText nearMisses).flatMap (TemplatePart.filled lookalike)) =
          "$$\x7bB\x7d$\x7ba\x7d$\x7b\x7d$\x7b$\x7bB\x7d\x7d$\x7bA" := by decide
    rw [filled, text]
    · rfl
    · intro before name after refers
      obtain ⟨front, back, same, -, -⟩ := (cuts.refersAt_iff _ _ _).1 refers
      exact among name (same ▸ by simp)
  · obtain ⟨-, -, unset, -⟩ :=
      ofTextWith_eq_filled keeping lookalike (nearMisses ++ "$\x7bC\x7d$\x7bB\x7d")
    have split : Template.ofText (nearMisses ++ "$\x7bC\x7d$\x7bB\x7d") =
        Template.ofText nearMisses ++ .reference "C" :: [.reference "B"] := by decide
    have cuts' : (Template.ofText (nearMisses ++ "$\x7bC\x7d$\x7bB\x7d")).Cuts _ :=
      Template.cuts_iff.2 rfl
    exact (unset "C").2 (cuts'.isFirstUnset_iff.2 ⟨_, _, split, rfl, among⟩)

end Config

end ImageRequest
