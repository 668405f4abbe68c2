/-!
# Request headers

Headers are names with values, in the order in which they were sent. Names do not distinguish case,
and of several values of a name the first one counts. A value is readable only if it consists of
visible ASCII characters, blanks and tabs.
-/

namespace ImageRequest

/-- Names with values. -/
abbrev Headers := List (String × String)

namespace Headers

/-- Whether a character can stand in a readable value. -/
def isReadable (c : Char) : Bool :=
  c == '\t' || (0x20 ≤ c.toNat && c.toNat < 0x7F)

/-- The first value of a name, which is given in lower case. -/
def value? (headers : Headers) (name : String) : Option String :=
  (List.find? (fun header => header.1.toLower = name) headers).map Prod.snd

/-- The first value of a name, if it is readable. -/
def text? (headers : Headers) (name : String) : Option String :=
  (headers.value? name).filter fun value => value.toList.all isReadable

end Headers

end ImageRequest
