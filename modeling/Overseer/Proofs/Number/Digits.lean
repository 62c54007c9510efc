import Overseer.Number.Decimal

/-!
# Rows of digits

A number in a text ends where its digits end. A row of digits is therefore told apart from
what follows it as soon as no digit follows: if two texts that start with numbers are equal,
the numbers are, and what follows them.

Results:
1. `append_inj_of_span`: a text is cut in one way only into a part of certain characters and
   a part that starts with another.
2. `toDigits_cut`, `integerText_cut`: naturals and integers are cut off a text in one way.
-/

namespace Overseer

/-! ## Cuts -/

/-- A text is cut in one way only where its first characters of one sort end. -/
theorem append_inj_of_span {p : Char → Bool} {a b x y : List Char}
    (ha : ∀ c ∈ a, p c = true) (hx : ∀ c ∈ x.head?, p c = false)
    (hb : ∀ c ∈ b, p c = true) (hy : ∀ c ∈ y.head?, p c = false) (h : a ++ x = b ++ y) :
    a = b ∧ x = y := by
  have hfirst : ∀ {s t : List Char}, (∀ c ∈ s, p c = true) → (∀ c ∈ t.head?, p c = false) →
      (s ++ t).takeWhile p = s := by
    intro s t hs ht
    rw [List.takeWhile_append_of_pos hs]
    cases t with
    | nil => simp
    | cons c rest => simp [ht c rfl]
  have hab : a = b := by rw [← hfirst ha hx, h, hfirst hb hy]
  subst hab
  exact ⟨rfl, List.append_cancel_left h⟩

def AllDigits (text : List Char) : Prop := ∀ c ∈ text, c.isDigit = true

/-- A row of digits ends before this text. -/
def EndsDigits (text : List Char) : Prop := ∀ c ∈ text.head?, c.isDigit = false

theorem endsDigits_nil : EndsDigits [] := fun _ hc => by cases hc

theorem endsDigits_cons {c : Char} (hc : c.isDigit = false) (rest : List Char) :
    EndsDigits (c :: rest) := by
  rintro _ ⟨⟩
  exact hc

variable {x y : List Char}

theorem AllDigits.cut {a b : List Char} (ha : AllDigits a) (hx : EndsDigits x)
    (hb : AllDigits b) (hy : EndsDigits y) (h : a ++ x = b ++ y) : a = b ∧ x = y :=
  append_inj_of_span ha hx hb hy h

/-! ## Numbers -/

theorem allDigits_toDigits (n : Nat) : AllDigits (Nat.toDigits 10 n) := fun _ hc =>
  Nat.isDigit_of_mem_toDigits (by decide) (by decide) hc

theorem toDigits_cut {m n : Nat} (hx : EndsDigits x) (hy : EndsDigits y)
    (h : Nat.toDigits 10 m ++ x = Nat.toDigits 10 n ++ y) : m = n ∧ x = y := by
  obtain ⟨hdigits, hrest⟩ := (allDigits_toDigits m).cut hx (allDigits_toDigits n) hy h
  refine ⟨?_, hrest⟩
  rw [← Nat.ofDigitChars_ten_toDigits (n := m), hdigits, Nat.ofDigitChars_ten_toDigits]

theorem integerText_ofNat (n : Nat) : (integerText n).toList = Nat.toDigits 10 n := by
  rw [show integerText n = Nat.repr n from rfl, Nat.repr_eq_ofList_toDigits, String.toList_ofList]

theorem integerText_negSucc (n : Nat) :
    (integerText (.negSucc n)).toList = '-' :: Nat.toDigits 10 (n + 1) := by
  rw [show integerText (.negSucc n) = "-" ++ Nat.repr (n + 1) from rfl, String.toList_append,
    Nat.repr_eq_ofList_toDigits, String.toList_ofList, String.toList_ofList]
  rfl

/-- The digits of a natural do not start with a sign. -/
theorem toDigits_append_ne_minus (n : Nat) (x y : List Char) :
    Nat.toDigits 10 n ++ x ≠ '-' :: y := by
  intro h
  cases hdigits : Nat.toDigits 10 n with
  | nil => exact Nat.toDigits_ne_nil hdigits
  | cons c rest =>
    have hdigit := allDigits_toDigits n c (hdigits ▸ List.mem_cons_self)
    rw [hdigits, List.cons_append, List.cons.injEq] at h
    rw [h.1] at hdigit
    exact absurd hdigit (by decide)

theorem integerText_cut {m n : Int} (hx : EndsDigits x) (hy : EndsDigits y)
    (h : (integerText m).toList ++ x = (integerText n).toList ++ y) : m = n ∧ x = y := by
  cases m with
  | ofNat m =>
    cases n with
    | ofNat n =>
      rw [Int.ofNat_eq_natCast, Int.ofNat_eq_natCast, integerText_ofNat, integerText_ofNat] at h
      obtain ⟨rfl, hrest⟩ := toDigits_cut hx hy h
      exact ⟨rfl, hrest⟩
    | negSucc n =>
      rw [Int.ofNat_eq_natCast, integerText_ofNat, integerText_negSucc] at h
      exact absurd h (toDigits_append_ne_minus _ _ _)
  | negSucc m =>
    cases n with
    | ofNat n =>
      rw [Int.ofNat_eq_natCast, integerText_ofNat, integerText_negSucc] at h
      exact absurd h.symm (toDigits_append_ne_minus _ _ _)
    | negSucc n =>
      rw [integerText_negSucc, integerText_negSucc, List.cons_append, List.cons_append,
        List.cons.injEq] at h
      obtain ⟨heq, hrest⟩ := toDigits_cut hx hy h.2
      exact ⟨congrArg Int.negSucc (Nat.succ.inj heq), hrest⟩

/-- A written integer starts with a sign or a digit. -/
theorem integerText_lead (n : Int) :
    ∃ c rest, (integerText n).toList = c :: rest ∧ (c = '-' ∨ c.isDigit = true) := by
  cases n with
  | ofNat n =>
    rw [Int.ofNat_eq_natCast, integerText_ofNat]
    cases hdigits : Nat.toDigits 10 n with
    | nil => exact absurd hdigits Nat.toDigits_ne_nil
    | cons c rest =>
      exact ⟨c, rest, rfl, Or.inr (allDigits_toDigits n c (hdigits ▸ List.mem_cons_self))⟩
  | negSucc n =>
    exact ⟨'-', _, integerText_negSucc n, Or.inl rfl⟩

theorem of_mem_integerText {n : Int} {c : Char} (hc : c ∈ (integerText n).toList) :
    c = '-' ∨ c.isDigit = true := by
  cases n with
  | ofNat n =>
    rw [Int.ofNat_eq_natCast, integerText_ofNat] at hc
    exact Or.inr (allDigits_toDigits n c hc)
  | negSucc n =>
    rw [integerText_negSucc] at hc
    exact (List.mem_cons.mp hc).imp_right (allDigits_toDigits (n + 1) c)

end Overseer
