import ImageRequest.Hints
import ImageRequest.Proofs.Numeral.Integer
import ImageRequest.Proofs.Text.Split

/-!
# What headers say

First the readings of headers, each as an equivalence: which value counts, when it is readable,
which media types it mentions, and which width or pixel ratio it gives. A value that cannot be read
as what its header is there for says nothing at all.

Then what they make of some options. `Options.Overlaid` says it for each option by itself, without
the order in which hints are taken over, and `Options.overlaid_iff` that taking them over comes to
the same.
-/

namespace ImageRequest

namespace Numeral

/-- A text is the numeral of a number if it consists of at least one digit, possibly behind a plus
sign, and the digits have that value. -/
def Writes (text : String) (n : Nat) : Prop :=
  ∃ digits, (text.toList = digits ∨ text.toList = '+' :: digits) ∧ digits ≠ [] ∧
    (∀ c ∈ digits, c.isDigit = true) ∧ valueFrom 0 digits = n

theorem writes_iff {text : String} {n : Nat} : Writes text n ↔ Natural text.toList n := by
  constructor
  · rintro ⟨row, same | same, digits⟩
    · rw [same]
      exact .unsigned (digits_iff.2 digits)
    · rw [same]
      exact .plus (digits_iff.2 digits)
  · rw [Writes]
    generalize text.toList = chars
    rintro (digits | digits)
    · exact ⟨_, .inl rfl, digits_iff.1 digits⟩
    · exact ⟨_, .inr rfl, digits_iff.1 digits⟩

end Numeral

namespace Headers

variable {headers : Headers} {name value : String}

/-- A value is the first one of a name, which is given in lower case. -/
def IsFirst (headers : Headers) (name value : String) : Prop :=
  ∃ before other after, headers = before ++ (other, value) :: after ∧ other.toLower = name ∧
    ∀ header ∈ before, header.1.toLower ≠ name

theorem value?_eq_some_iff : headers.value? name = some value ↔ headers.IsFirst name value := by
  simp only [value?, Option.map_eq_some_iff, List.find?_eq_some_iff_append, decide_eq_true_iff,
    Bool.not_eq_true', decide_eq_false_iff_not, Prod.exists, exists_eq_right]
  constructor
  · rintro ⟨other, named, before, after, rfl, others⟩
    exact ⟨before, other, after, rfl, named, others⟩
  · rintro ⟨before, other, after, rfl, named, others⟩
    exact ⟨other, named, before, after, rfl, others⟩

/-- The first value of a name is readable. -/
def Reads (headers : Headers) (name value : String) : Prop :=
  headers.IsFirst name value ∧ ∀ c ∈ value.toList, isReadable c = true

theorem text?_eq_some_iff : headers.text? name = some value ↔ headers.Reads name value := by
  rw [text?, Option.filter_eq_some_iff, value?_eq_some_iff, List.all_eq_true, Reads]

/-- A client mentions a media type among those that it accepts. -/
def Accepts (headers : Headers) (mediaType : String) : Prop :=
  ∃ accepted, headers.Reads "accept" accepted ∧ mediaType.toList <:+: accepted.toList

/-- The value of a name, without blanks around it, is a width in pixels. -/
def GivesWidth (headers : Headers) (name : String) (width : Nat) : Prop :=
  ∃ value, headers.Reads name value ∧ Numeral.Writes (Text.trim value) width ∧ width ≤ 4294967295

/-- The pixel ratio, without blanks around it, is a number above zero and at most eight. -/
def GivesDpr (headers : Headers) (dpr : Float) : Prop :=
  ∃ value, headers.Reads "dpr" value ∧ Numeral.float? (Text.trim value) = some dpr ∧
    0.0 < dpr ∧ dpr ≤ 8.0

theorem any_isMentionedIn_iff (format : ImageFormat) :
    (headers.text? "accept").any format.isMentionedIn = true ↔ headers.Accepts format.mediaType := by
  simp only [Option.any_eq_true, text?_eq_some_iff, ImageFormat.isMentionedIn, Text.occursIn_iff,
    Accepts]

theorem widthHint?_eq_some_iff {width : Nat} :
    Options.widthHint? headers name = some width ↔ headers.GivesWidth name width := by
  simp only [Options.widthHint?, Option.bind_eq_some_iff, text?_eq_some_iff,
    Numeral.natUpTo?_eq_some_iff, Numeral.writes_iff, GivesWidth]

theorem dprHint?_eq_some_iff {dpr : Float} :
    Options.dprHint? headers = some dpr ↔ headers.GivesDpr dpr := by
  simp only [Options.dprHint?, Option.filter_eq_some_iff, Option.bind_eq_some_iff,
    text?_eq_some_iff, Bool.and_eq_true, decide_eq_true_iff, GivesDpr, ← and_assoc,
    exists_and_right]

end Headers

/-- A value has the first property or, if there is no such value, the second one. -/
def Preferably {α : Type} (first second : α → Prop) (value : α) : Prop :=
  first value ∨ (∀ other, ¬ first other) ∧ second value

section

variable {α : Type} {first second : α → Prop} {one two : Option α}

theorem preferably_iff (gives : ∀ value, one = some value ↔ first value)
    (otherwise : ∀ value, two = some value ↔ second value) (value : α) :
    Preferably first second value ↔ one.or two = some value := by
  simp only [Preferably, ← gives, ← otherwise]
  cases one <;> simp

theorem preferably_eq_iff (gives : ∀ value, one = some value ↔ first value) (before after : α) :
    Preferably first (· = before) after ↔ after = one.getD before := by
  have otherwise : ∀ value, some before = some value ↔ value = before :=
    fun value => by rw [Option.some.injEq, eq_comm]
  rw [preferably_iff gives otherwise, Option.or_some, Option.some.injEq, eq_comm]

end

namespace Options

/-- The flags of a format that a client accepts, by its media type: whether the configuration
prefers it there, and whether it enforces it. -/
def Negotiated (headers : Headers) (mediaType : String) (detected enforced : Bool)
    (flags : Bool × Bool) : Prop :=
  headers.Accepts mediaType ∧ flags = (detected || enforced, enforced)

/-- What is given counts only where the configuration allows hints. -/
def Allowed {α : Type} (config : ProcessingConfig) (Given : α → Prop) (value : α) : Prop :=
  config.clientHints = true ∧ Given value

/-- What the headers of a request make of some options. The width of the image counts more than that
of the viewport, and whatever is not given stays as it was. -/
structure Overlaid (config : ProcessingConfig) (headers : Headers) (before after : Options) :
    Prop where
  others : after =
    { before with
      preferWebp := after.preferWebp, enforceWebp := after.enforceWebp
      preferAvif := after.preferAvif, enforceAvif := after.enforceAvif
      width := after.width, dpr := after.dpr }
  webp : Preferably (Negotiated headers "image/webp" config.detectWebp config.enforceWebp)
    (· = (before.preferWebp, before.enforceWebp)) (after.preferWebp, after.enforceWebp)
  avif : Preferably (Negotiated headers "image/avif" config.detectAvif config.enforceAvif)
    (· = (before.preferAvif, before.enforceAvif)) (after.preferAvif, after.enforceAvif)
  width : Preferably
    (Allowed config
      (Preferably (headers.GivesWidth "width") (headers.GivesWidth "viewport-width")))
    (· = before.width) after.width
  dpr : Preferably (Allowed config headers.GivesDpr) (· = before.dpr) after.dpr

variable {config : ProcessingConfig} {headers : Headers}

/-- The flags of a format, if the client accepts it. -/
def flags? (headers : Headers) (format : ImageFormat) (detected enforced : Bool) :
    Option (Bool × Bool) :=
  if (headers.text? "accept").any format.isMentionedIn then some (detected || enforced, enforced)
  else none

/-- The width of the image, else that of the viewport, if the configuration allows hints. -/
def allowedWidth? (config : ProcessingConfig) (headers : Headers) : Option Nat :=
  if config.clientHints then (widthHint? headers "width").or (widthHint? headers "viewport-width")
  else none

/-- The pixel ratio, if the configuration allows hints. -/
def allowedDpr? (config : ProcessingConfig) (headers : Headers) : Option Float :=
  if config.clientHints then dprHint? headers else none

theorem flags?_eq_some_iff (headers : Headers) (format : ImageFormat) (detected enforced : Bool)
    (flags : Bool × Bool) :
    flags? headers format detected enforced = some flags ↔
      Negotiated headers format.mediaType detected enforced flags := by
  rw [flags?, Option.ite_none_right_eq_some, Headers.any_isMentionedIn_iff, Option.some.injEq,
    eq_comm, Negotiated]

theorem allowedWidth?_eq_some_iff (config : ProcessingConfig) (headers : Headers) (width : Nat) :
    allowedWidth? config headers = some width ↔
      Allowed config
        (Preferably (headers.GivesWidth "width") (headers.GivesWidth "viewport-width")) width := by
  rw [allowedWidth?, Option.ite_none_right_eq_some, Allowed,
    preferably_iff (fun _ => Headers.widthHint?_eq_some_iff)
      (fun _ => Headers.widthHint?_eq_some_iff)]

theorem allowedDpr?_eq_some_iff (config : ProcessingConfig) (headers : Headers) (dpr : Float) :
    allowedDpr? config headers = some dpr ↔ Allowed config headers.GivesDpr dpr := by
  rw [allowedDpr?, Option.ite_none_right_eq_some, Headers.dprHint?_eq_some_iff, Allowed]

/-- Each of the options that hints write, by itself. -/
theorem withHints_eq (before : Options) (config : ProcessingConfig) (headers : Headers) :
    before.withHints config headers =
      let webp := (flags? headers .webp config.detectWebp config.enforceWebp).getD
        (before.preferWebp, before.enforceWebp)
      let avif := (flags? headers .avif config.detectAvif config.enforceAvif).getD
        (before.preferAvif, before.enforceAvif)
      { before with
        preferWebp := webp.1, enforceWebp := webp.2, preferAvif := avif.1, enforceAvif := avif.2
        width := (allowedWidth? config headers).getD before.width
        dpr := (allowedDpr? config headers).getD before.dpr } := by
  rw [withHints]
  cases accepts : headers.text? "accept" with
  | none =>
      cases allowed : config.clientHints <;>
        simp [flags?, allowedWidth?, allowedDpr?, accepts, allowed, adaptToClient]
  | some accepted =>
      cases webp : ImageFormat.webp.isMentionedIn accepted <;>
        cases avif : ImageFormat.avif.isMentionedIn accepted <;>
          cases allowed : config.clientHints <;>
            simp [flags?, allowedWidth?, allowedDpr?, accepts, webp, avif, allowed, negotiate,
              adaptToClient]

/-- Taking over the hints is the one way to overlay some options. -/
theorem overlaid_iff {config : ProcessingConfig} {headers : Headers} {before after : Options} :
    Overlaid config headers before after ↔ after = before.withHints config headers := by
  have webp := preferably_eq_iff
    (flags?_eq_some_iff headers .webp config.detectWebp config.enforceWebp)
    (before.preferWebp, before.enforceWebp) (after.preferWebp, after.enforceWebp)
  have avif := preferably_eq_iff
    (flags?_eq_some_iff headers .avif config.detectAvif config.enforceAvif)
    (before.preferAvif, before.enforceAvif) (after.preferAvif, after.enforceAvif)
  have width := preferably_eq_iff (allowedWidth?_eq_some_iff config headers) before.width after.width
  have dpr := preferably_eq_iff (allowedDpr?_eq_some_iff config headers) before.dpr after.dpr
  rw [withHints_eq]
  constructor
  · intro overlaid
    refine overlaid.others.trans ?_
    rw [← webp.1 overlaid.webp, ← avif.1 overlaid.avif, ← width.1 overlaid.width,
      ← dpr.1 overlaid.dpr]
  · intro same
    exact ⟨by rw [same], webp.2 (by rw [same]), avif.2 (by rw [same]), width.2 (by rw [same]),
      dpr.2 (by rw [same])⟩

end Options

end ImageRequest
