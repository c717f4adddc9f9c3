namespace CallJournal.Text

/-- A text with A to Z made lower; every other character is kept. -/
def lowered (text : String) : String := String.ofList (text.toList.map Char.toLower)

def sameFolded (left right : String) : Bool := lowered left == lowered right

theorem toList_lowered (text : String) : (lowered text).toList = text.toList.map Char.toLower := by
  simp [lowered]

theorem sameFolded_iff {left right : String} :
    sameFolded left right = true ↔ lowered left = lowered right := by
  simp [sameFolded]

theorem isDigit_iff {char : Char} : char.isDigit = true ↔ '0' ≤ char ∧ char ≤ '9' := by
  rw [Char.isDigit_iff_toNat]
  simp only [Char.le_def, UInt32.le_iff_toNat_le]
  rfl

/-- Whatever has a lower form of its own is ASCII. -/
theorem toLower_eq_or_toNat_lt (char : Char) : char.toLower = char ∨ char.toNat < 128 := by
  unfold Char.toLower
  split
  · rename_i upper
    exact .inr (Nat.lt_of_le_of_lt (UInt32.le_iff_toNat_le.mp upper.2) (by decide))
  · exact .inl rfl

theorem toNat_lt_of_toLower {char : Char} (ascii : char.toLower.toNat < 128) :
    char.toNat < 128 := by
  rcases toLower_eq_or_toNat_lt char with same | small
  · rwa [same] at ascii
  · exact small

theorem toLower_toLower (char : Char) : char.toLower.toLower = char.toLower := by
  have every : ∀ code < 128, (Char.ofNat code).toLower.toLower = (Char.ofNat code).toLower := by
    decide
  rcases toLower_eq_or_toNat_lt char with same | small
  · rw [same]
    exact same
  · have folded := every char.toNat small
    rwa [Char.ofNat_toNat] at folded

end CallJournal.Text
