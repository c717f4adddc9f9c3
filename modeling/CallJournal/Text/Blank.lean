namespace CallJournal.Text

/-- The White_Space property. -/
def isBlank (char : Char) : Bool :=
  let code := char.toNat
  (0x09 ≤ code && code ≤ 0x0d) || code == 0x20 || code == 0x85 || code == 0xa0 ||
    code == 0x1680 || (0x2000 ≤ code && code ≤ 0x200a) || code == 0x2028 || code == 0x2029 ||
    code == 0x202f || code == 0x205f || code == 0x3000

def trimStart (text : List Char) : List Char := text.dropWhile isBlank

def trimEnd (text : List Char) : List Char := (text.reverse.dropWhile isBlank).reverse

def trim (text : String) : String := String.ofList (trimEnd (trimStart text.toList))

theorem trimStart_cons_of_not_blank {char : Char} (rest : List Char)
    (visible : isBlank char = false) : trimStart (char :: rest) = char :: rest := by
  simp [trimStart, visible]

theorem dropWhile_isBlank_of_visible {text : List Char}
    (visible : ∀ char ∈ text, isBlank char = false) : text.dropWhile isBlank = text := by
  cases text with
  | nil => rfl
  | cons char rest => exact trimStart_cons_of_not_blank rest (visible char List.mem_cons_self)

theorem trim_eq_self {text : String} (visible : ∀ char ∈ text.toList, isBlank char = false) :
    trim text = text := by
  have reversed : ∀ char ∈ text.toList.reverse, isBlank char = false := fun char found =>
    visible char (List.mem_reverse.mp found)
  rw [trim, trimStart, dropWhile_isBlank_of_visible visible, trimEnd,
    dropWhile_isBlank_of_visible reversed, List.reverse_reverse, String.ofList_toList]

end CallJournal.Text
