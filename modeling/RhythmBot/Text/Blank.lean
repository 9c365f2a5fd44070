/-!
Blank characters, trimming, and the words that blanks separate.
-/

namespace RhythmBot.Text

/-- The characters with the `White_Space` property. -/
def isBlank (c : Char) : Bool :=
  let n := c.toNat
  (9 ≤ n && n ≤ 13) || n == 0x20 || n == 0x85 || n == 0xA0 || n == 0x1680 ||
    (0x2000 ≤ n && n ≤ 0x200A) || n == 0x2028 || n == 0x2029 || n == 0x202F ||
    n == 0x205F || n == 0x3000

def dropBlanks (cs : List Char) : List Char :=
  cs.dropWhile isBlank

def dropEndBlanks (cs : List Char) : List Char :=
  (dropBlanks cs.reverse).reverse

def strip (cs : List Char) : List Char :=
  dropEndBlanks (dropBlanks cs)

def prependRun (run : List Char) (later : List (List Char)) : List (List Char) :=
  if run.isEmpty then later else run :: later

/-- The run of characters that are not blank at the very front, which may be empty, and the runs
behind it. -/
def frontRun : List Char → List Char × List (List Char)
  | [] => ([], [])
  | c :: rest =>
    let (run, later) := frontRun rest
    if isBlank c then ([], prependRun run later) else (c :: run, later)

def chunks (cs : List Char) : List (List Char) :=
  prependRun (frontRun cs).1 (frontRun cs).2

def words (text : String) : List String :=
  (chunks text.toList).map String.ofList

def trim (text : String) : String :=
  String.ofList (strip text.toList)

def trimEnd (text : String) : String :=
  String.ofList (dropEndBlanks text.toList)

def isBlankText (text : String) : Bool :=
  text.toList.all isBlank

theorem frontRun_solid (cs : List Char) :
    (∀ c ∈ (frontRun cs).1, isBlank c = false) ∧
      ∀ run ∈ (frontRun cs).2, run ≠ [] ∧ ∀ c ∈ run, isBlank c = false := by
  induction cs with
  | nil => simp [frontRun]
  | cons c rest ih =>
    simp only [frontRun]
    split
    · refine ⟨by simp, ?_⟩
      unfold prependRun
      split
      · exact ih.2
      · rename_i nonempty
        simp only [List.mem_cons, forall_eq_or_imp]
        exact ⟨⟨by simpa using nonempty, ih.1⟩, ih.2⟩
    · rename_i solid
      simp only [List.mem_cons, forall_eq_or_imp]
      exact ⟨⟨by simpa using solid, ih.1⟩, ih.2⟩

theorem chunks_solid (cs : List Char) :
    ∀ chunk ∈ chunks cs, chunk ≠ [] ∧ ∀ c ∈ chunk, isBlank c = false := by
  have front := frontRun_solid cs
  unfold chunks prependRun
  split
  · exact front.2
  · rename_i nonempty
    simp only [List.mem_cons, forall_eq_or_imp]
    exact ⟨⟨by simpa using nonempty, front.1⟩, front.2⟩

theorem frontRun_append_solid (run rest : List Char) (solid : ∀ c ∈ run, isBlank c = false) :
    frontRun (run ++ rest) = (run ++ (frontRun rest).1, (frontRun rest).2) := by
  induction run with
  | nil => simp
  | cons c tail ih =>
    simp only [List.mem_cons, forall_eq_or_imp] at solid
    simp [frontRun, ih solid.2, solid.1]

end RhythmBot.Text
