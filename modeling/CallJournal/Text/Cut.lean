namespace CallJournal.Text

/-- The parts before and after the first occurrence of `mark`. -/
def cutFirst (mark : Char) : List Char → Option (List Char × List Char)
  | [] => none
  | char :: rest =>
    if char = mark then some ([], rest)
    else (cutFirst mark rest).map fun (front, back) => (char :: front, back)

/-- The parts before and after the last occurrence of `mark`. -/
def cutLast (mark : Char) : List Char → Option (List Char × List Char)
  | [] => none
  | char :: rest =>
    match cutLast mark rest with
    | some (front, back) => some (char :: front, back)
    | none => if char = mark then some ([], rest) else none

/-- The pieces between the occurrences of `mark`; a text without it is one piece. -/
def pieces (mark : Char) : List Char → List (List Char)
  | [] => [[]]
  | char :: rest =>
    if char = mark then [] :: pieces mark rest
    else match pieces mark rest with
      | [] => [[char]]
      | piece :: others => (char :: piece) :: others

/-- How many octets a text has in UTF-8. -/
def octetCount (text : List Char) : Nat := text.foldr (fun char count => char.utf8Size + count) 0

/-- The parts before and after the first `count` octets, unless that would cut through a character
or there are not so many. -/
def cutAt? : Nat → List Char → Option (List Char × List Char)
  | 0, text => some ([], text)
  | _ + 1, [] => none
  | count + 1, char :: rest =>
    if char.utf8Size ≤ count + 1 then
      (cutAt? (count + 1 - char.utf8Size) rest).map fun (front, back) => (char :: front, back)
    else none

/-- The part of a text between two places counted in octets. -/
def slice? (text : List Char) (first last : Nat) : Option (List Char) := do
  let (_, back) ← cutAt? first text
  let (middle, _) ← cutAt? (last - first) back
  return middle

theorem cutFirst_eq_none_iff {mark : Char} {text : List Char} :
    cutFirst mark text = none ↔ mark ∉ text := by
  induction text with
  | nil => simp [cutFirst]
  | cons char rest ih =>
    by_cases same : char = mark
    · simp [cutFirst, same]
    · simp [cutFirst, same, ih, Ne.symm same]

theorem cutLast_eq_none_iff {mark : Char} {text : List Char} :
    cutLast mark text = none ↔ mark ∉ text := by
  induction text with
  | nil => simp [cutLast]
  | cons char rest ih =>
    cases inner : cutLast mark rest with
    | some parts =>
      have present : mark ∈ rest := Decidable.not_not.mp fun absent => by
        rw [ih.mpr absent] at inner; cases inner
      simp [cutLast, inner, present]
    | none =>
      have absent := ih.mp inner
      by_cases same : char = mark
      · simp [cutLast, inner, same]
      · simp [cutLast, inner, same, absent, Ne.symm same]

theorem cutFirst_append {mark : Char} {front : List Char} (back : List Char)
    (absent : mark ∉ front) : cutFirst mark (front ++ mark :: back) = some (front, back) := by
  induction front with
  | nil => simp [cutFirst]
  | cons char rest ih =>
    have differs : char ≠ mark := fun same => absent (by simp [same])
    simp [cutFirst, differs, ih fun member => absent (List.mem_cons_of_mem _ member)]

theorem cutLast_append {mark : Char} (front : List Char) {back : List Char}
    (absent : mark ∉ back) : cutLast mark (front ++ mark :: back) = some (front, back) := by
  induction front with
  | nil => simp [cutLast, cutLast_eq_none_iff.mpr absent]
  | cons char rest ih => simp [cutLast, ih]

theorem cutFirst_eq_some_iff {mark : Char} {text front back : List Char} :
    cutFirst mark text = some (front, back) ↔ text = front ++ mark :: back ∧ mark ∉ front := by
  refine ⟨fun cut => ?_, fun ⟨whole, absent⟩ => whole ▸ cutFirst_append back absent⟩
  induction text generalizing front with
  | nil => simp [cutFirst] at cut
  | cons char rest ih =>
    by_cases same : char = mark
    · simp only [cutFirst, same, if_true, Option.some.injEq, Prod.mk.injEq] at cut
      obtain ⟨rfl, rfl⟩ := cut
      simp [same]
    · simp only [cutFirst, same, if_false, Option.map_eq_some_iff, Prod.mk.injEq] at cut
      obtain ⟨⟨first, second⟩, inner, rfl, rfl⟩ := cut
      obtain ⟨whole, absent⟩ := ih inner
      simp [whole, absent, Ne.symm same]

theorem cutLast_eq_some_iff {mark : Char} {text front back : List Char} :
    cutLast mark text = some (front, back) ↔ text = front ++ mark :: back ∧ mark ∉ back := by
  refine ⟨fun cut => ?_, fun ⟨whole, absent⟩ => whole ▸ cutLast_append front absent⟩
  induction text generalizing front with
  | nil => simp [cutLast] at cut
  | cons char rest ih =>
    cases inner : cutLast mark rest with
    | some parts =>
      simp only [cutLast, inner, Option.some.injEq, Prod.mk.injEq] at cut
      obtain ⟨rfl, rfl⟩ := cut
      obtain ⟨whole, absent⟩ := ih inner
      exact ⟨by simp [whole], absent⟩
    | none =>
      by_cases same : char = mark
      · simp only [cutLast, inner, same, if_true, Option.some.injEq, Prod.mk.injEq] at cut
        obtain ⟨rfl, rfl⟩ := cut
        exact ⟨by simp [same], cutLast_eq_none_iff.mp inner⟩
      · simp [cutLast, inner, same] at cut

theorem octetCount_cons (char : Char) (rest : List Char) :
    octetCount (char :: rest) = char.utf8Size + octetCount rest := by
  simp [octetCount]

theorem cutAt?_append (front back : List Char) :
    cutAt? (octetCount front) (front ++ back) = some (front, back) := by
  induction front with
  | nil => simp [octetCount, cutAt?]
  | cons char rest ih =>
    have positive := char.utf8Size_pos
    obtain ⟨count, whole⟩ : ∃ count, octetCount (char :: rest) = count + 1 :=
      ⟨octetCount (char :: rest) - 1, by rw [octetCount_cons]; omega⟩
    have after : count + 1 - char.utf8Size = octetCount rest := by
      rw [← whole, octetCount_cons]; omega
    have fits : char.utf8Size ≤ count + 1 := by rw [← whole, octetCount_cons]; omega
    rw [whole, List.cons_append, cutAt?, if_pos fits, after, ih]
    rfl

theorem cutAt?_eq_some_iff {count : Nat} {text front back : List Char} :
    cutAt? count text = some (front, back) ↔
      text = front ++ back ∧ octetCount front = count := by
  refine ⟨fun cut => ?_, fun ⟨whole, counted⟩ => whole ▸ counted ▸ cutAt?_append front back⟩
  induction text generalizing count front with
  | nil =>
    cases count with
    | zero =>
      simp only [cutAt?, Option.some.injEq, Prod.mk.injEq] at cut
      obtain ⟨rfl, rfl⟩ := cut
      simp [octetCount]
    | succ => simp [cutAt?] at cut
  | cons char rest ih =>
    cases count with
    | zero =>
      simp only [cutAt?, Option.some.injEq, Prod.mk.injEq] at cut
      obtain ⟨rfl, rfl⟩ := cut
      simp [octetCount]
    | succ count =>
      by_cases fits : char.utf8Size ≤ count + 1
      · simp only [cutAt?, if_pos fits, Option.map_eq_some_iff, Prod.mk.injEq] at cut
        obtain ⟨⟨first, second⟩, inner, rfl, rfl⟩ := cut
        obtain ⟨whole, counted⟩ := ih inner
        refine ⟨by simp [whole], ?_⟩
        rw [octetCount_cons, counted]
        omega
      · simp [cutAt?, fits] at cut

end CallJournal.Text
