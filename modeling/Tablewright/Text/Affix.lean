/-!
# Beginnings and endings

A text without a given beginning or end.
-/

namespace Tablewright.Text

/-- The rest of a text after a given beginning. -/
def afterPrefix? : List Char → List Char → Option (List Char)
  | [], cs => some cs
  | _ :: _, [] => none
  | p :: ps, c :: cs => if p = c then afterPrefix? ps cs else none

/-- A text before a given end. -/
def beforeEnd?
    (ending cs : List Char) : Option (List Char) :=
  if ending.isSuffixOf cs then some (cs.take (cs.length - ending.length)) else none

/-- A text before a given end, if that leaves anything. -/
def beforeSuffix?
    (suffix cs : List Char) : Option (List Char) :=
  (beforeEnd? suffix cs).filter (!·.isEmpty)

/-- A text begins as it was built. -/
@[simp] theorem afterPrefix?_append
    (start rest : List Char) :
    afterPrefix? start (start ++ rest) = some rest := by
  induction start with
  | nil => simp [afterPrefix?]
  | cons c cs ih => simp [afterPrefix?, ih]

/-- A text with a given beginning is that beginning and the rest. -/
theorem eq_append_of_afterPrefix?
    {start cs rest : List Char}
    (found : afterPrefix? start cs = some rest) :
    cs = start ++ rest := by
  induction start generalizing cs with
  | nil => simpa [afterPrefix?] using found
  | cons p ps ih =>
    cases cs with
    | nil => simp [afterPrefix?] at found
    | cons c cs =>
      rw [afterPrefix?] at found
      split at found
      · next same => simp [same, ih found]
      · simp at found

/-- A text ends as it was built. -/
@[simp] theorem beforeEnd?_append
    (cs ending : List Char) :
    beforeEnd? ending (cs ++ ending) = some cs := by
  simp [beforeEnd?, List.isSuffixOf_iff_suffix]

/-- A text without an ending is before none. -/
theorem beforeEnd?_eq_none
    {ending cs : List Char}
    (absent : ¬ ending <:+ cs) :
    beforeEnd? ending cs = none :=
  if_neg (mt List.isSuffixOf_iff_suffix.mp absent)

/-- A text before an end is what the end is taken from. -/
theorem beforeEnd?_eq_some_iff {ending cs before : List Char} :
    beforeEnd? ending cs = some before ↔ cs = before ++ ending := by
  constructor
  · intro found
    by_cases ends : ending <:+ cs
    · obtain ⟨start, rfl⟩ := ends
      rw [beforeEnd?_append] at found
      rw [Option.some.inj found]
    · rw [beforeEnd?_eq_none ends] at found
      exact absurd found (by simp)
  · rintro rfl
    exact beforeEnd?_append before ending

theorem beforeSuffix?_eq_some_iff {suffix cs before : List Char} :
    beforeSuffix? suffix cs = some before ↔ before ≠ [] ∧ cs = before ++ suffix := by
  rw [beforeSuffix?, Option.filter_eq_some_iff, beforeEnd?_eq_some_iff]
  simp [and_comm]

theorem beforeSuffix?_append
    {before : List Char}
    (before_ne : before ≠ [])
    (suffix : List Char) :
    beforeSuffix? suffix (before ++ suffix) = some before :=
  beforeSuffix?_eq_some_iff.mpr ⟨before_ne, rfl⟩

theorem beforeSuffix?_eq_none
    {suffix cs : List Char}
    (absent : ¬ suffix <:+ cs) :
    beforeSuffix? suffix cs = none := by
  rw [beforeSuffix?, beforeEnd?_eq_none absent]
  rfl

/-- Of two endings neither of which ends the other, a text has one at most. -/
theorem not_suffix_append
    {suffix other : List Char}
    (not_longer : ¬ other <:+ suffix)
    (not_shorter : ¬ suffix <:+ other)
    {before : List Char} :
    ¬ other <:+ before ++ suffix := by
  intro ends
  rcases List.suffix_or_suffix_of_suffix ends (List.suffix_append before suffix) with
    longer | shorter
  · exact not_longer longer
  · exact not_shorter shorter

end Tablewright.Text
