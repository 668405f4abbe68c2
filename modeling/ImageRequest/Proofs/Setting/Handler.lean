import ImageRequest.Proofs.Script
import ImageRequest.Setting.Handler

/-!
# Handlers act as scripts

A handler sees the options it is run on, and a script does not. `Handler.Runs` says that a handler
acts as a script: whatever the options and warnings are, it makes the edits and gives the warnings
of the script and ends with its rejection. There is one rule for each way in which a handler is put
together, and by these rules every setting acts as its script (`Setting.runs_handle`).

So nothing that was stored before decides whether a directive is rejected. The handlers that look at
what is stored look at what they have just stored themselves: the gravity of an extension has the
anchor of the placement by then, whatever it was.
-/

namespace ImageRequest

/-- What a script makes of the options and warnings so far. -/
def Script.result (script : Script) (progress : Progress) :
    EStateM.Result Rejection Progress Unit :=
  let after : Progress :=
    { options := Edit.applyAll script.edits progress.options
      warnings := progress.warnings ++ script.warnings }
  match script.rejection? with
  | none => .ok () after
  | some rejection => .error rejection after

namespace Handler

/-- An argument that is there and not empty is used. -/
theorem slot_of_ne {arguments : List String} {index : Nat} {token : String}
    (given : arguments[index]? = some token) (filled : token ≠ "") (use : String → Handler Unit) :
    slot arguments index use = use token := by
  rw [slot, given]
  split <;> simp_all

/-- Two changes, one after the other, are one change. -/
theorem change_bind_change (f g : Options → Options) (next : Unit → Handler Unit) :
    (change f >>= fun _ => change g >>= next) = change (fun o => g (f o)) >>= next := rfl

theorem extract_eq_singleton {arguments : List String} {index : Nat} {token : String}
    (given : arguments[index]? = some token) : arguments.extract index (index + 1) = [token] := by
  obtain ⟨within, rfl⟩ := List.getElem?_eq_some_iff.1 given
  rw [List.extract_eq_take_drop, List.drop_eq_getElem_cons within, Nat.add_sub_cancel_left]
  rfl

/-- A handler acts as a script, whatever the options and warnings are. -/
def Runs (handler : Handler Unit) (script : Script) : Prop :=
  ∀ progress, EStateM.run handler progress = script.result progress

namespace Runs

variable {handler next : Handler Unit} {script later : Script}

theorem run_eq (acts : Runs handler script) (options : Options) :
    handler.run options = script.run options := by
  obtain ⟨edits, warnings, rejection?⟩ := script
  rw [run, acts]
  cases rejection? <;> rfl

theorem done : Runs (pure ()) Script.done := by
  intro progress
  simp only [Script.result, Script.done, List.append_nil]
  rfl

theorem reject (rejection : Rejection) : Runs (throw rejection) (Script.reject rejection) := by
  intro progress
  simp only [Script.result, Script.reject, List.append_nil]
  rfl

/-- A handler that makes one edit and nothing else. -/
theorem write {edit : Edit}
    (changes : ∀ progress, EStateM.run handler progress =
      .ok () { progress with options := edit.apply progress.options }) :
    Runs handler (Script.write edit) := by
  intro progress
  rw [changes]
  simp only [Script.result, Script.write, List.append_nil]
  rfl

theorem append (first : Runs handler script) (second : Runs next later) :
    Runs (handler >>= fun _ => next) (script ++ later) := by
  intro progress
  rw [EStateM.run_bind, first]
  obtain ⟨edits, warnings, rejection?⟩ := script
  cases rejection? with
  | some rejection => rfl
  | none =>
      simp only [Script.result, second _, Script.append_def, Script.append, Edit.applyAll_append,
        List.append_assoc]

theorem change {f : Options → Options} {edit : Edit}
    (makes : ∀ options, f options = edit.apply options) :
    Runs (change f) (Script.write edit) := by
  refine write fun progress => ?_
  rw [← makes]
  rfl

theorem warn (warnings : List Warning) : Runs (warn warnings) (Script.warn warnings) := by
  intro progress
  rfl

theorem ite {p : Prop} [Decidable p] (holds : p → Runs handler script)
    (fails : ¬ p → Runs next later) :
    Runs (if p then handler else next) (if p then script else later) := by
  by_cases condition : p
  · rw [if_pos condition, if_pos condition]
    exact holds condition
  · rw [if_neg condition, if_neg condition]
    exact fails condition

/-- A value that was read is written, and the rest follows. -/
theorem store_append {α : Type} {value : Except Rejection α} {edit : α → Edit}
    {use : α → Handler Unit} (each : ∀ x, Runs (use x) (Script.write (edit x) ++ later)) :
    Runs (read value >>= use) (Script.store edit value ++ later) := by
  cases value with
  | ok x => exact each x
  | error rejection => exact reject rejection

theorem store {α : Type} {value : Except Rejection α} {edit : α → Edit} {use : α → Handler Unit}
    (each : ∀ x, Runs (use x) (Script.write (edit x))) :
    Runs (read value >>= use) (Script.store edit value) := by
  rw [← Script.append_done (Script.store edit value)]
  exact store_append fun x => by simpa using each x

/-- A truth value is written behind the warning for its token, and the rest follows. -/
theorem flag_append {token : String} {edit : Bool → Edit} {use : Bool → Handler Unit}
    (each : ∀ x, Runs (use x) (Script.write (edit x) ++ later)) :
    Runs (flag token >>= use) (Script.flag edit token ++ later) := by
  rw [Script.flag_eq, Script.append_assoc]
  exact (warn (Token.boolWarnings token)).append (each (Token.bool token))

theorem flag {token : String} {edit : Bool → Edit} {use : Bool → Handler Unit}
    (each : ∀ x, Runs (use x) (Script.write (edit x))) :
    Runs (flag token >>= use) (Script.flag edit token) := by
  rw [← Script.append_done (Script.flag edit token)]
  exact flag_append fun x => by simpa using each x

theorem single {label : String} {arguments : List String} {use : String → Handler Unit}
    {script : String → Script} (each : ∀ token, Runs (use token) (script token)) :
    Runs (single label arguments >>= use) (Script.single label arguments script) := by
  match arguments with
  | [token] => exact each token
  | [] => exact reject _
  | _ :: _ :: _ => exact reject _

theorem slot {arguments : List String} {index : Nat} {use : String → Handler Unit}
    {script : String → Script}
    (each : ∀ token, arguments[index]? = some token → Runs (use token) (script token)) :
    Runs (slot arguments index use) (Script.slot arguments index script) := by
  cases given : arguments[index]? with
  | none =>
      rw [Handler.slot, Script.slot, given]
      exact done
  | some token =>
      by_cases empty : token = ""
      · rw [Handler.slot, Script.slot, given, empty]
        exact done
      · rw [slot_of_ne given empty, Script.slot_of_ne given empty]
        exact each token given

/-- What is done for each of some arguments is done one after the other. -/
theorem forM {arguments : List String} {use : String → Handler Unit} {script : String → Script}
    (each : ∀ token, Runs (use token) (script token)) :
    Runs (arguments.forM use) (Script.sequence (arguments.map script)) := by
  induction arguments with
  | nil => exact done
  | cons token arguments ih => exact (each token).append ih

/-! ### The settings -/

section Settings

variable (arguments : List String)

theorem pixels (label : String) {store : Nat → Options → Options} {edit : Nat → Edit}
    (stores : ∀ value options, store value options = (edit value).apply options) :
    Runs (pixels label store arguments) (Script.pixels label edit arguments) :=
  single fun _ => Runs.store fun value => change (stores value)

theorem switch (label : String) {store : Bool → Options → Options} {edit : Bool → Edit}
    (stores : ∀ value options, store value options = (edit value).apply options) :
    Runs (switch label store arguments) (Script.switch label edit arguments) :=
  single fun _ => flag fun value => change (stores value)

theorem amount (label : String) {store : Float → Options → Options} {edit : Float → Edit}
    (stores : ∀ value options, store value options = (edit value).apply options) :
    Runs (amount label store arguments) (Script.amount label edit arguments) :=
  single fun _ => Runs.store fun value => change (stores value)

theorem width : Runs (width arguments) (Script.width arguments) :=
  pixels arguments "width" fun _ _ => rfl

theorem height : Runs (height arguments) (Script.height arguments) :=
  pixels arguments "height" fun _ _ => rfl

theorem enlarge : Runs (enlarge arguments) (Script.enlarge arguments) :=
  switch arguments "enlarge" fun _ _ => rfl

theorem resizingType : Runs (resizingType arguments) (Script.resizingType arguments) :=
  single fun _ => store fun _ => change fun _ => rfl

/-- The gravity that is looked at is the one just stored. Its anchor is that of the placement. -/
theorem extensionGravity (tokens : List String) :
    Runs
      (read (Placement.ofTokens tokens) >>= fun placement => do
        Handler.change fun o =>
          { o with extension.gravity := o.extension.gravity.place placement }
        if (← options).extension.gravity.anchor = .smart then
          throw (.unsupportedAnchor "extend" .smart))
      (Script.extensionGravity tokens) := by
  rw [Script.extensionGravity]
  cases Placement.ofTokens tokens with
  | error rejection => exact reject rejection
  | ok placement =>
      have acts : Runs
          (Handler.change (Edit.extension (.gravity placement)).apply >>= fun _ =>
            if placement.anchor = .smart then throw (.unsupportedAnchor "extend" .smart)
            else pure ())
          (Script.write (.extension (.gravity placement)) ++
            if placement.anchor = .smart then Script.reject (.unsupportedAnchor "extend" .smart)
            else .done) :=
        append (change fun _ => rfl) (ite (fun _ => reject _) fun _ => done)
      -- behind the change, what is looked at computes to the anchor of the placement
      exact fun progress => acts progress

theorem extend : Runs (extend arguments) (Script.extend arguments) := by
  match arguments with
  | [] => exact reject _
  | enabled :: rest =>
      refine ite (fun _ => reject _) fun _ => ?_
      refine flag_append fun value => append (change fun _ => rfl) ?_
      exact ite (fun _ => done) fun _ => extensionGravity rest

theorem size : Runs (size arguments) (Script.size arguments) := by
  refine ite (fun _ => reject _) fun _ => ?_
  simp only [Script.append_assoc]
  refine append (slot fun token given => ?_) ?_
  · rw [extract_eq_singleton given]
    exact width [token]
  refine append (slot fun token given => ?_) ?_
  · rw [extract_eq_singleton given]
    exact height [token]
  refine append (slot fun token given => ?_) ?_
  · rw [extract_eq_singleton given]
    exact enlarge [token]
  exact slot fun _ _ => extend (arguments.drop 3)

theorem resize : Runs (resize arguments) (Script.resize arguments) := by
  match arguments with
  | [] => exact reject _
  | type :: rest =>
      refine ite (fun _ => reject _) fun _ => append (slot fun token given => ?_) ?_
      · rw [extract_eq_singleton given]
        exact resizingType [token]
      · cases rest with
        | nil => exact done
        | cons width rest => exact size (width :: rest)

theorem format : Runs (format arguments) (Script.format arguments) :=
  single fun _ => store fun _ => change fun _ => rfl

theorem gravity : Runs (gravity arguments) (Script.gravity arguments) :=
  store fun _ => change fun _ => rfl

theorem crop : Runs (crop arguments) (Script.crop arguments) := by
  match arguments with
  | [] => exact reject _
  | [width] => exact store_append fun _ => append (change fun _ => rfl) done
  | width :: height :: tokens =>
      refine ite (fun _ => reject _) fun _ => ?_
      refine store_append fun _ => append (change fun _ => rfl) ?_
      refine store_append fun _ => append (change fun _ => rfl) ?_
      exact ite (fun _ => done) fun _ => store fun _ => change fun _ => rfl

/-- The sides that are looked at are those that were just stored, or kept. -/
theorem disableIfEmpty :
    Runs
      (do
        if (← options).padding.isEmpty then
          changePadding fun padding => { padding with enabled := false })
      (Script.write (.padding .disableIfEmpty)) := by
  refine write fun ⟨options, warnings⟩ => ?_
  change EStateM.run
    (if options.padding.isEmpty then
      changePadding fun padding => { padding with enabled := false }
    else pure ()) { options, warnings } = _
  rw [Edit.apply, Padding.Edit.apply]
  by_cases empty : options.padding.isEmpty
  · rw [if_pos empty, if_pos empty]
    rfl
  · rw [if_neg empty, if_neg empty]
    rfl

theorem padding : Runs (padding arguments) (Script.padding arguments) := by
  refine ite (fun _ => reject _) fun _ => ?_
  simp only [Script.append_assoc]
  refine append (change fun _ => rfl) ?_
  refine append (slot fun _ _ => store fun _ => write fun _ => rfl) ?_
  refine append (slot fun _ _ => store fun _ => write fun _ => rfl) ?_
  refine append (slot fun _ _ => store fun _ => change fun _ => rfl) ?_
  refine append (slot fun _ _ => store fun _ => change fun _ => rfl) ?_
  exact disableIfEmpty

theorem trim : Runs (trim arguments) (Script.trim arguments) := by
  match arguments with
  | [] => exact reject _
  | threshold :: rest =>
      refine ite (fun _ => reject _) fun _ => ?_
      simp only [Script.append_assoc]
      refine store_append fun value => ?_
      -- the threshold and the switch are stored one by one, and written by one edit
      rw [changeTrim, changeTrim, change_bind_change]
      refine append (change fun _ => rfl) ?_
      refine append (slot fun _ _ => store fun _ => write fun _ => rfl) ?_
      refine append (slot fun _ _ => flag fun _ => change fun _ => rfl) ?_
      exact slot fun _ _ => flag fun _ => change fun _ => rfl

theorem background : Runs (background arguments) (Script.background arguments) := by
  unfold Handler.background
  split
  · exact change fun _ => rfl
  · rename_i hex filled
    rw [Script.background_of_hex filled]
    exact store_append fun _ => append (change fun _ => rfl) (change fun _ => rfl)
  · rename_i red green blue
    rw [Script.background_of_three]
    simp only [Script.append_assoc]
    refine append (change fun _ => rfl) ?_
    refine store_append fun _ => append (change fun _ => rfl) ?_
    refine store_append fun _ => append (change fun _ => rfl) ?_
    exact store fun _ => change fun _ => rfl
  · rename_i notEmpty notHex notThree
    unfold Script.background
    split
    · exact (notEmpty rfl).elim
    · exact (notHex _ rfl).elim
    · exact (notThree _ _ _ rfl).elim
    · exact reject _

theorem position (token : String) : Runs (position token) (Script.position token) := by
  refine ite (fun _ => change fun _ => rfl) fun _ => ?_
  cases Anchor.ofToken? token with
  | none => exact reject _
  | some anchor => cases anchor <;> first | exact reject _ | exact change fun _ => rfl

theorem watermark : Runs (watermark arguments) (Script.watermark arguments) := by
  match arguments with
  | [] => exact reject _
  | opacity :: rest =>
      refine ite (fun _ => reject _) fun _ => ?_
      simp only [Script.append_assoc]
      refine store_append fun value => ?_
      -- so are the opacity and the switch, which looks at the opacity just stored
      rw [changeWatermark, changeWatermark, change_bind_change]
      refine append (change fun _ => rfl) ?_
      refine append (slot fun token _ => position token) ?_
      refine append (slot fun _ _ => store fun _ => change fun _ => rfl) ?_
      refine append (slot fun _ _ => store fun _ => change fun _ => rfl) ?_
      exact slot fun _ _ => store fun _ => change fun _ => rfl

theorem skipProcessing : Runs (skipProcessing arguments) (Script.skipProcessing arguments) :=
  forM fun _ => store fun _ => change fun _ => rfl

theorem expires (now : Int) : Runs (expires now arguments) (Script.expires now arguments) := by
  refine single fun token => ?_
  cases Token.integer "expires argument" token with
  | error rejection => exact reject rejection
  | ok time => exact ite (fun _ => reject _) fun _ => done

end Settings

end Runs

end Handler

namespace Setting

/-- Every setting acts as its script, whatever was stored before. -/
theorem runs_handle (now : Int) (setting : Setting) (arguments : List String) :
    (setting.handle now arguments).Runs (setting.script now arguments) := by
  cases setting with
  | resize => exact .resize arguments
  | size => exact .size arguments
  | resizingType => exact .resizingType arguments
  | width => exact .width arguments
  | height => exact .height arguments
  | minWidth => exact .pixels arguments "min width" fun _ _ => rfl
  | minHeight => exact .pixels arguments "min height" fun _ _ => rfl
  | dpr => exact .single fun _ => .store fun _ => .change fun _ => rfl
  | enlarge => exact .enlarge arguments
  | extend => exact .extend arguments
  | gravity => exact .gravity arguments
  | crop => exact .crop arguments
  | trim => exact .trim arguments
  | padding => exact .padding arguments
  | autoRotate => exact .switch arguments "auto rotate" fun _ _ => rfl
  | rotate => exact .single fun _ => .store fun _ => .change fun _ => rfl
  | background => exact .background arguments
  | blur => exact .amount arguments "blur" fun _ _ => rfl
  | sharpen => exact .amount arguments "sharpen" fun _ _ => rfl
  | watermark => exact .watermark arguments
  | stripMetadata => exact .switch arguments "strip metadata" fun _ _ => rfl
  | stripColorProfile => exact .switch arguments "strip color profile" fun _ _ => rfl
  | quality => exact .single fun _ => .store fun _ => .change fun _ => rfl
  | maxBytes => exact .single fun _ => .store fun _ => .change fun _ => rfl
  | format => exact .format arguments
  | skipProcessing => exact .skipProcessing arguments
  | cacheBuster => exact .single fun _ => .change fun _ => rfl
  | expires => exact .expires arguments now
  | filename => exact .single fun _ => .change fun _ => rfl

/-- Running a setting on some options is running its script on them. -/
theorem run_handle (now : Int) (setting : Setting) (arguments : List String) (options : Options) :
    (setting.handle now arguments).run options = (setting.script now arguments).run options :=
  (runs_handle now setting arguments).run_eq options

/-- The rejection of a setting is that of its script, on any options. -/
@[simp] theorem rejection?_run_handle (now : Int) (setting : Setting) (arguments : List String)
    (options : Options) :
    ((setting.handle now arguments).run options).rejection? =
      (setting.script now arguments).rejection? := by
  rw [run_handle]
  rfl

end Setting

end ImageRequest
