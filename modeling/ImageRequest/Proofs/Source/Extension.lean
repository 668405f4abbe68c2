import ImageRequest.Proofs.Source

/-!
# Extensions split off

An encoded source is taken apart at a mark of one character, which it may have once. What stands
behind the mark is the extension, unless that is empty, and what stands in front of it is the
encoded address, which must not be empty. `ofEncoded_eq_ok_iff` says exactly which sources are read
and from which texts, for either way to encode addresses.
-/

namespace ImageRequest.Source

/-- The encoded text is an address that is not empty, alone or with a mark and something behind it.
Neither of the two parts has the mark in it. -/
structure SplitsAt (d : Char) (encoded front : String) (behind? : Option String) : Prop where
  joined : encoded = front ++ suffix (String.singleton d) behind?
  given : front ≠ ""
  absent : d ∉ front.toList
  single : ∀ behind ∈ behind?, d ∉ behind.toList

variable {baseUrl encoded front : String} {behind? extension? : Option String} {d : Char}

theorem head?_singleton (d : Char) : (String.singleton d).toList.head? = some d := by simp

/-- What stands in front of the first mark, if there is one. -/
theorem takeWhile_append_suffix (absent : d ∉ front.toList) :
    (front ++ suffix (String.singleton d) behind?).toList.takeWhile (· != d) = front.toList := by
  have passed : ∀ c ∈ front.toList, (c != d) = true :=
    fun c within => bne_iff_ne.2 fun same => absent (same ▸ within)
  rw [String.toList_append, List.takeWhile_append_of_pos passed]
  cases behind? <;> simp [suffix]

/-- However an encoded text is put together, it is taken apart at its first mark. -/
theorem SplitsAt.unique {front' : String} {behind?' : Option String}
    (splits : SplitsAt d encoded front behind?)
    (joined : encoded = front' ++ suffix (String.singleton d) behind?')
    (absent : d ∉ front'.toList) :
    front = front' ∧
      suffix (String.singleton d) behind? = suffix (String.singleton d) behind?' := by
  have both := splits.joined.symm.trans joined
  have fronts : front.toList = front'.toList := by
    rw [← takeWhile_append_suffix splits.absent, both, takeWhile_append_suffix absent]
  obtain rfl := String.toList_inj.1 fronts
  exact ⟨rfl, (String.append_right_inj front).1 both⟩

theorem splitExtension_eq_ok_iff :
    splitExtension (String.singleton d) encoded = .ok (front, extension?) ↔
      ∃ behind?, SplitsAt d encoded front behind? ∧ extension? = behind?.filter (· ≠ "") := by
  constructor
  · intro found
    have single : (String.singleton d).toList = [d] := by simp
    have joined : (String.singleton d).intercalate (Text.split (String.singleton d) encoded) =
        encoded := Text.intercalate_split (by simp) encoded
    have absent : ∀ piece ∈ Text.split (String.singleton d) encoded, d ∉ piece.toList :=
      fun piece => Text.not_mem_of_mem_split single
    rw [splitExtension] at found
    split at found
    · rename_i url pieces
      rw [pieces] at joined absent
      split at found
      · cases found
      · rename_i given
        cases found
        rw [String.intercalate_singleton] at joined
        refine ⟨none, ⟨?_, given, absent _ List.mem_cons_self, by simp⟩, rfl⟩
        simp [suffix, joined]
    · rename_i url behind pieces
      rw [pieces] at joined absent
      split at found
      · cases found
      · rename_i given
        cases found
        rw [String.intercalate_cons_cons, String.intercalate_singleton] at joined
        refine ⟨some behind, ⟨?_, given, absent _ List.mem_cons_self, ?_⟩, ?_⟩
        · rw [suffix, ← String.append_assoc, joined]
        · rintro _ ⟨⟩
          exact absent behind (by simp)
        · rw [Option.filter_some]
          split <;> simp_all
    · cases found
  · rintro ⟨behind?, ⟨rfl, given, absent, single⟩, rfl⟩
    exact splitExtension_append_suffix (head?_singleton d) given absent single

/-- A source is read from an encoded text exactly if its address is read from what stands in front
of the mark; the extension is what stands behind it, unless that is empty. -/
theorem ofEncoded_eq_ok_iff {address? : String → Option String} {source : Source} :
    ofEncoded baseUrl (String.singleton d) address? encoded = .ok source ↔
      ∃ front behind? address, SplitsAt d encoded front behind? ∧ address? front = some address ∧
        source = { url := baseUrl ++ address, extension? := behind?.filter (· ≠ "") } := by
  constructor
  · intro read
    rw [ofEncoded] at read
    cases found : splitExtension (String.singleton d) encoded with
    | error error => simp [found, bind, Except.bind] at read
    | ok parts =>
        obtain ⟨front, extension?⟩ := parts
        obtain ⟨behind?, splits, rfl⟩ := splitExtension_eq_ok_iff.1 found
        cases decoded : address? front with
        | none => simp [found, decoded, bind, Except.bind] at read
        | some address =>
            simp only [found, decoded, bind, Except.bind, Except.ok.injEq] at read
            exact ⟨front, behind?, address, splits, decoded, read.symm⟩
  · rintro ⟨front, behind?, address, ⟨rfl, given, absent, single⟩, decoded, rfl⟩
    exact ofEncoded_append_suffix (head?_singleton d) given absent decoded single

end ImageRequest.Source
