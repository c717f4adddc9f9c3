import CallJournal.Token.Base64Url

namespace CallJournal.Token.Base64Url

/-- The characters that encoded octets are made of. -/
def IsSymbol (char : Char) : Prop := ∃ value < 64, symbol value = char

theorem value?_symbol {value : Nat} (small : value < 64) : value? (symbol value) = some value := by
  have every : ∀ value < 64, value? (symbol value) = some value := by decide
  exact every value small

theorem valueAt_symbol {value : Nat} (small : value < 64) (offset : Nat) :
    valueAt (symbol value) offset = .ok value := by
  rw [valueAt, value?_symbol small]

theorem lastValues_cons {value : Nat} (small : value < 64) (offset place : Nat) (rest : List Char)
    {values : List Nat} (others : lastValues offset (place + 1) rest = .ok values) :
    lastValues offset place (symbol value :: rest) = .ok (value :: values) := by
  have every : ∀ value < 64, symbol value ≠ '=' := by decide
  rw [lastValues, if_neg (every value small), valueAt_symbol small, others]

section

variable (a b c : UInt8)

theorem first_lt : a.toNat / 4 < 64 := by
  have := a.toNat_lt
  omega

theorem second_lt : a.toNat % 4 * 16 + b.toNat / 16 < 64 := by
  have := b.toNat_lt
  omega

theorem third_lt : b.toNat % 16 * 4 + c.toNat / 64 < 64 := by
  have := c.toNat_lt
  omega

theorem octetsOfTwo_split : octetsOfTwo (a.toNat / 4) (a.toNat % 4 * 16 + b.toNat / 16) = [a] := by
  have low := b.toNat_lt
  have same : a.toNat / 4 * 4 + (a.toNat % 4 * 16 + b.toNat / 16) / 16 = a.toNat := by omega
  rw [octetsOfTwo, same, UInt8.ofNat_toNat]

theorem octetsOfThree_split : octetsOfThree (a.toNat / 4) (a.toNat % 4 * 16 + b.toNat / 16)
    (b.toNat % 16 * 4 + c.toNat / 64) = [a, b] := by
  have low := b.toNat_lt
  have lower := c.toNat_lt
  have same : (a.toNat % 4 * 16 + b.toNat / 16) % 16 * 16 + (b.toNat % 16 * 4 + c.toNat / 64) / 4 =
    b.toNat := by omega
  rw [octetsOfThree, octetsOfTwo_split, same, UInt8.ofNat_toNat]
  rfl

theorem octetsOfFour_split : octetsOfFour (a.toNat / 4) (a.toNat % 4 * 16 + b.toNat / 16)
    (b.toNat % 16 * 4 + c.toNat / 64) (c.toNat % 64) = [a, b, c] := by
  have lower := c.toNat_lt
  have same : (b.toNat % 16 * 4 + c.toNat / 64) % 4 * 64 + c.toNat % 64 = c.toNat := by omega
  rw [octetsOfFour, octetsOfThree_split, same, UInt8.ofNat_toNat]
  rfl

end

theorem groups_encode (offset : Nat) (octets : Octets) :
    groups offset (encode octets) = .ok octets := by
  induction octets using encode.induct generalizing offset with
  | case1 => rfl
  | case2 a =>
    have spare : a.toNat % 4 * 16 < 64 := by omega
    have read := lastValues_cons (first_lt a) offset 0 _ (lastValues_cons spare offset 1 [] rfl)
    have whole := octetsOfTwo_split a 0
    simp only [UInt8.toNat_zero, Nat.zero_div, Nat.add_zero] at whole
    simp [encode, groups, lastGroup, read, whole]
  | case3 a b =>
    have spare : b.toNat % 16 * 4 < 64 := by omega
    have read := lastValues_cons (first_lt a) offset 0 _
      (lastValues_cons (second_lt a b) offset 1 _ (lastValues_cons spare offset 2 [] rfl))
    have whole := octetsOfThree_split a b 0
    simp only [UInt8.toNat_zero, Nat.zero_div, Nat.add_zero] at whole
    simp [encode, groups, lastGroup, read, whole]
  | case4 a b c rest ih =>
    have fourth : c.toNat % 64 < 64 := by omega
    rw [encode]
    -- Four symbols are a group of their own only if others follow; else they are the last group.
    cases others : encode rest with
    | nil =>
      have read := lastValues_cons (first_lt a) offset 0 _
        (lastValues_cons (second_lt a b) offset 1 _
          (lastValues_cons (third_lt b c) offset 2 _ (lastValues_cons fourth offset 3 [] rfl)))
      have none : rest = [] := by simpa [others, groups] using ih offset
      simp [groups, lastGroup, read, octetsOfFour_split, none]
    | cons next more =>
      have read := ih (offset + 4)
      rw [others] at read
      simp only [groups, valueAt_symbol (first_lt a), valueAt_symbol (second_lt a b),
        valueAt_symbol (third_lt b c), valueAt_symbol fourth, read]
      change Except.ok (octetsOfFour _ _ _ _ ++ rest) = _
      rw [octetsOfFour_split]
      rfl

theorem isSymbol_of_mem_encode {octets : Octets} {char : Char} (among : char ∈ encode octets) :
    IsSymbol char := by
  induction octets using encode.induct with
  | case1 => cases among
  | case2 a =>
    have spare : a.toNat % 4 * 16 < 64 := by omega
    simp only [encode, List.mem_cons, List.not_mem_nil, or_false] at among
    rcases among with rfl | rfl
    · exact ⟨_, first_lt a, rfl⟩
    · exact ⟨_, spare, rfl⟩
  | case3 a b =>
    have spare : b.toNat % 16 * 4 < 64 := by omega
    simp only [encode, List.mem_cons, List.not_mem_nil, or_false] at among
    rcases among with rfl | rfl | rfl
    · exact ⟨_, first_lt a, rfl⟩
    · exact ⟨_, second_lt a b, rfl⟩
    · exact ⟨_, spare, rfl⟩
  | case4 a b c rest ih =>
    have fourth : c.toNat % 64 < 64 := by omega
    simp only [encode, List.mem_cons] at among
    rcases among with rfl | rfl | rfl | rfl | later
    · exact ⟨_, first_lt a, rfl⟩
    · exact ⟨_, second_lt a b, rfl⟩
    · exact ⟨_, third_lt b c, rfl⟩
    · exact ⟨_, fourth, rfl⟩
    · exact ih later

/-- Encoded octets are read back, whatever they are. -/
theorem decode_encode (octets : Octets) : decode (encode octets) = .ok octets := by
  unfold decode
  cases ending : (encode octets).getLast? with
  | none =>
    rw [List.getLast?_eq_none_iff] at ending
    have read := groups_encode 0 octets
    rw [ending] at read
    exact read
  | some last =>
    -- No text is refused for its last character when that is a symbol.
    obtain ⟨value, small, rfl⟩ := isSymbol_of_mem_encode (List.mem_of_getLast? ending)
    simp only [value?_symbol small, reduceCtorEq, and_false, if_false]
    exact groups_encode 0 octets

end CallJournal.Token.Base64Url
