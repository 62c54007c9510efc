import Overseer.Data.Json
import Overseer.Data.JsonReader
import Overseer.Proofs.Number.Digits

/-!
# Written JSON is unambiguous

A document on one line can be read in one way only. Its first character says of what kind it
is, the quote that ends a string is the first one without a backslash, and a list or a record
ends at the first bracket that follows an element. Strings are read back by the program's own
reader. A number has no mark at its end: it is told apart from what follows it as long as no
digit follows.

Results:
1. `stringRest_stringChars`: the reader gets back the string that was written.
2. `Json.readable`: a document is cut off a text in one way.
3. `Json.compact_inj`: the line determines the document.
4. `Json.graphic_compactChars`: no line has a control character in it.
-/

namespace Overseer

/-! ## Strings -/

section Strings

open JsonReader Json

theorem hexValue?_digitChar : ∀ d < 16, hexValue? (Nat.digitChar d) = some d := by
  decide

theorem escapedUnit_control {c : Char} (hc : c.toNat < 0x20) (rest : List Char) :
    escapedUnit ('0' :: '0' :: Nat.digitChar (c.toNat / 16) ::
      Nat.digitChar (c.toNat % 16) :: rest) = some (c, rest) := by
  have hunit : unit16 ('0' :: '0' :: Nat.digitChar (c.toNat / 16) ::
      Nat.digitChar (c.toNat % 16) :: rest) = some (c.toNat, rest) := by
    have hzero : hexValue? '0' = some 0 := rfl
    simp only [unit16, hzero, hexValue?_digitChar _ (show c.toNat / 16 < 16 by omega),
      hexValue?_digitChar _ (Nat.mod_lt _ (by decide)), Option.bind_eq_bind, Option.bind_some]
    rw [show ((0 * 16 + 0) * 16 + c.toNat / 16) * 16 + c.toNat % 16 = c.toNat by omega]
  have hlow : ¬ (0xD800 ≤ c.toNat ∧ c.toNat < 0xDC00) := by omega
  have hhigh : ¬ (0xDC00 ≤ c.toNat ∧ c.toNat < 0xE000) := by omega
  simp only [escapedUnit, hunit, Option.bind_eq_bind, Option.bind_some, if_neg hlow, if_neg hhigh,
    Char.ofNat_toNat]

/-- The reader takes what was written for one character. -/
theorem stringRest_stringChar (fuel : Nat) (read : List Char) (c : Char) (rest : List Char) :
    stringRest (fuel + 1) read (stringChar c ++ rest) = stringRest fuel (c :: read) rest := by
  unfold stringChar
  split
  case h_8 hquote hbackslash _ _ _ _ _ =>
    have hordinary : c ≠ '\\' := hbackslash
    split
    · next hcontrol =>
      simp only [List.cons_append, List.nil_append, stringRest, escapedUnit_control hcontrol]
    · next hplain =>
      rw [List.singleton_append, stringRest]
      · rw [if_neg (by simp [hordinary, hplain])]
      · exact fun _ h => absurd h hordinary
      · exact fun _ _ h => absurd h hordinary
      · exact hquote
  all_goals simp [stringRest, shortEscape?]

/-- The reader gets back the string that was written, and stops after it. -/
theorem stringRest_stringChars (fuel : Nat) (value : String) (rest : List Char)
    (hfuel : value.toList.length < fuel) :
    stringRest fuel [] (value.toList.flatMap stringChar ++ '"' :: rest) = some (value, rest) := by
  suffices hread : ∀ (chars read : List Char) (fuel : Nat), chars.length < fuel →
      stringRest fuel read (chars.flatMap stringChar ++ '"' :: rest) =
        some (String.ofList (read.reverse ++ chars), rest) by
    rw [hread _ _ _ hfuel, List.reverse_nil, List.nil_append, String.ofList_toList]
  intro chars
  induction chars with
  | nil =>
    intro read fuel hfuel
    obtain ⟨fuel, rfl⟩ := Nat.exists_eq_add_one.mpr hfuel
    simp [stringRest]
  | cons c chars ih =>
    intro read fuel hfuel
    obtain ⟨fuel, rfl⟩ := Nat.exists_eq_add_one.mpr (Nat.zero_lt_of_lt hfuel)
    rw [List.flatMap_cons, List.append_assoc, stringRest_stringChar,
      ih _ _ (Nat.lt_of_succ_lt_succ hfuel), List.reverse_cons, List.append_assoc]
    rfl

theorem stringChars_append (value : String) (rest : List Char) :
    stringChars value ++ rest = '"' :: (value.toList.flatMap stringChar ++ '"' :: rest) := by
  simp [stringChars]

theorem stringChars_cut {a b : String} {x y : List Char}
    (h : stringChars a ++ x = stringChars b ++ y) : a = b ∧ x = y := by
  rw [stringChars_append, stringChars_append, List.cons.injEq] at h
  let fuel := a.toList.length + b.toList.length + 1
  have hfirst := stringRest_stringChars fuel a x (by omega)
  have hsecond := stringRest_stringChars fuel b y (by omega)
  rw [h.2, hsecond] at hfirst
  cases hfirst
  exact ⟨rfl, rfl⟩

end Strings

/-! ## Rows of elements -/

/-- The text of `a` is cut in one way off a text in which no digit follows it. -/
def Readable {α : Type} (write : α → List Char) (a : α) : Prop :=
  ∀ {b : α} {x y : List Char}, EndsDigits x → EndsDigits y → write a ++ x = write b ++ y →
    a = b ∧ x = y

/-- The texts of some elements, with commas in between. -/
def separated {α : Type} (write : α → List Char) : List α → List Char
  | [] => []
  | a :: rest => write a ++ rest.flatMap fun b => ',' :: write b

section Rows

variable {α : Type} {write : α → List Char} {close : Char} {as bs : List α} {x y : List Char}

theorem endsDigits_following (hclose : close.isDigit = false) (as : List α) (x : List Char) :
    EndsDigits ((as.flatMap fun a => ',' :: write a) ++ close :: x) := by
  cases as with
  | nil => exact endsDigits_cons hclose x
  | cons a rest => exact endsDigits_cons (by decide) _

/-- Elements that follow a comma each are cut in one way, up to the closing bracket. -/
theorem following_cut (hclose : close.isDigit = false) (hcomma : close ≠ ',')
    (readable : ∀ a ∈ as, Readable write a)
    (h : (as.flatMap fun a => ',' :: write a) ++ close :: x =
      (bs.flatMap fun b => ',' :: write b) ++ close :: y) : as = bs ∧ x = y := by
  induction as generalizing bs with
  | nil =>
    cases bs with
    | nil => exact ⟨rfl, (List.cons.inj h).2⟩
    | cons b bs => exact absurd (List.cons.inj h).1 hcomma
  | cons a as ih =>
    cases bs with
    | nil => exact absurd (List.cons.inj h).1.symm hcomma
    | cons b bs =>
      rw [List.flatMap_cons, List.flatMap_cons, List.append_assoc, List.append_assoc] at h
      obtain ⟨rfl, hrest⟩ := readable a List.mem_cons_self (endsDigits_following hclose as x)
        (endsDigits_following hclose bs y) (List.cons.inj h).2
      obtain ⟨rfl, hxy⟩ := ih (fun b hb => readable b (List.mem_cons_of_mem a hb)) hrest
      exact ⟨rfl, hxy⟩

/-- A row is cut off a text in one way if no element starts with the closing bracket. -/
theorem separated_cut (hclose : close.isDigit = false) (hcomma : close ≠ ',')
    (hlead : ∀ a rest rest', write a ++ rest ≠ close :: rest')
    (readable : ∀ a ∈ as, Readable write a)
    (h : separated write as ++ close :: x = separated write bs ++ close :: y) :
    as = bs ∧ x = y := by
  cases as with
  | nil =>
    cases bs with
    | nil => exact ⟨rfl, (List.cons.inj h).2⟩
    | cons b bs =>
      rw [separated, separated, List.append_assoc] at h
      exact absurd h.symm (hlead _ _ _)
  | cons a as =>
    cases bs with
    | nil =>
      rw [separated, separated, List.append_assoc] at h
      exact absurd h (hlead _ _ _)
    | cons b bs =>
      rw [separated, separated, List.append_assoc, List.append_assoc] at h
      obtain ⟨rfl, hrest⟩ := readable a List.mem_cons_self (endsDigits_following hclose as x)
        (endsDigits_following hclose bs y) h
      obtain ⟨rfl, hxy⟩ :=
        following_cut hclose hcomma (fun b hb => readable b (List.mem_cons_of_mem a hb)) hrest
      exact ⟨rfl, hxy⟩

theorem of_mem_separated {c : Char} (hc : c ∈ separated write as) :
    c = ',' ∨ ∃ a ∈ as, c ∈ write a := by
  cases as with
  | nil => cases hc
  | cons a rest =>
    rcases List.mem_append.mp hc with hfirst | hmore
    · exact Or.inr ⟨a, List.mem_cons_self, hfirst⟩
    · obtain ⟨b, hb, hmem⟩ := List.mem_flatMap.mp hmore
      exact (List.mem_cons.mp hmem).imp_right fun hmem => ⟨b, List.mem_cons_of_mem a hb, hmem⟩

end Rows

/-! ## Documents -/

namespace Json

/-- Induction over documents, with the hypothesis for the items of a list and for the contents
of the fields of a record. -/
@[elab_as_elim]
theorem inductionOn {motive : Json → Prop} (json : Json) (null : motive .null)
    (bool : ∀ value, motive (.bool value)) (number : ∀ value, motive (.number value))
    (string : ∀ value, motive (.string value))
    (array : ∀ items, (∀ item ∈ items, motive item) → motive (.array items))
    (object : ∀ fields, (∀ field ∈ fields, motive field.2) → motive (.object fields)) :
    motive json := by
  match json with
  | .null => exact null
  | .bool value => exact bool value
  | .number value => exact number value
  | .string value => exact string value
  | .array items =>
    exact array items fun item _ => inductionOn item null bool number string array object
  | .object fields =>
    exact object fields fun field hfield =>
      inductionOn field.2 null bool number string array object
termination_by sizeOf json
decreasing_by
  · have := List.sizeOf_lt_of_mem ‹item ∈ items›
    simp only [Json.array.sizeOf_spec]
    omega
  · have := List.sizeOf_lt_of_mem hfield
    obtain ⟨name, value⟩ := field
    simp only [Json.object.sizeOf_spec, Prod.mk.sizeOf_spec] at *
    omega

/-- The text of a field. -/
def fieldChars (field : String × Json) : List Char :=
  stringChars field.1 ++ ':' :: field.2.compactChars

theorem compactItems_eq (items : List Json) :
    compactItems items = separated compactChars items := by
  cases items with
  | nil => rfl
  | cons item rest =>
    rw [separated]
    induction rest generalizing item with
    | nil => simp [compactItems]
    | cons next rest ih => simp [compactItems, ih]

theorem compactFields_eq (fields : List (String × Json)) :
    compactFields fields = separated fieldChars fields := by
  cases fields with
  | nil => rfl
  | cons field rest =>
    rw [separated]
    induction rest generalizing field with
    | nil => simp [compactFields, fieldChars]
    | cons next rest ih => simp [compactFields, fieldChars, ih]

/-! ## Kinds -/

/-- What sort of document a text starts with. -/
inductive Kind
  | null
  | bool
  | number
  | string
  | array
  | object
  deriving DecidableEq

def kind : Json → Kind
  | null => .null
  | bool _ => .bool
  | number _ => .number
  | string _ => .string
  | array _ => .array
  | object _ => .object

/-- The kind of the documents that start with a character. -/
def Kind.ofLead? (c : Char) : Option Kind :=
  if c.isDigit then some .number
  else
    match c with
    | '-' => some .number
    | 'n' => some .null
    | 't' | 'f' => some .bool
    | '"' => some .string
    | '[' => some .array
    | '\x7b' => some .object
    | _ => none

theorem compactChars_lead (json : Json) :
    ∃ c rest, json.compactChars = c :: rest ∧ Kind.ofLead? c = some json.kind := by
  cases json with
  | null => exact ⟨'n', _, rfl, rfl⟩
  | bool value =>
    cases value with
    | true => exact ⟨'t', _, rfl, rfl⟩
    | false => exact ⟨'f', _, rfl, rfl⟩
  | number value =>
    obtain ⟨c, rest, htext, hlead⟩ := integerText_lead value
    refine ⟨c, rest, by rw [compactChars, htext], ?_⟩
    rcases hlead with rfl | hdigit
    · rfl
    · exact if_pos hdigit
  | string value => exact ⟨'"', _, rfl, rfl⟩
  | array items => exact ⟨'[', _, rfl, rfl⟩
  | object fields => exact ⟨'\x7b', _, rfl, rfl⟩

/-- Two documents of one kind. -/
inductive Alike : Json → Json → Prop
  | null : Alike .null .null
  | bool (value other : Bool) : Alike (.bool value) (.bool other)
  | number (value other : Int) : Alike (.number value) (.number other)
  | string (value other : String) : Alike (.string value) (.string other)
  | array (items others : List Json) : Alike (.array items) (.array others)
  | object (fields others : List (String × Json)) : Alike (.object fields) (.object others)

theorem alike_of_kind {j k : Json} (h : j.kind = k.kind) : Alike j k := by
  cases j <;> cases k <;> first | constructor | cases h

theorem alike_of_append {j k : Json} {x y : List Char}
    (h : j.compactChars ++ x = k.compactChars ++ y) : Alike j k := by
  obtain ⟨c, rest, hj, hkind⟩ := compactChars_lead j
  obtain ⟨d, rest', hk, hkind'⟩ := compactChars_lead k
  rw [hj, hk, List.cons_append, List.cons_append, List.cons.injEq] at h
  rw [h.1, hkind', Option.some.injEq] at hkind
  exact alike_of_kind hkind.symm

/-- No document starts with a character that stands for no kind. -/
theorem compactChars_append_ne {c : Char} (hc : Kind.ofLead? c = none) (json : Json)
    (rest rest' : List Char) : json.compactChars ++ rest ≠ c :: rest' := by
  obtain ⟨d, more, hjson, hkind⟩ := compactChars_lead json
  intro h
  rw [hjson, List.cons_append, List.cons.injEq] at h
  rw [h.1, hc] at hkind
  cases hkind

/-! ## Reading -/

theorem readable_field {field : String × Json} (readable : Readable compactChars field.2) :
    Readable fieldChars field := by
  intro other x y hx hy h
  simp only [fieldChars, List.append_assoc, List.cons_append] at h
  obtain ⟨hname, hrest⟩ := stringChars_cut h
  obtain ⟨hvalue, hxy⟩ := readable hx hy (List.cons.inj hrest).2
  exact ⟨Prod.ext hname hvalue, hxy⟩

theorem fieldChars_append_ne {c : Char} (hc : c ≠ '"') (field : String × Json)
    (rest rest' : List Char) : fieldChars field ++ rest ≠ c :: rest' := by
  intro h
  rw [fieldChars, List.append_assoc, stringChars_append, List.cons.injEq] at h
  exact hc h.1.symm

/-- A document is cut off a text in one way, if no digit follows it. -/
theorem readable (json : Json) : Readable compactChars json := by
  induction json using inductionOn with
  | null =>
    intro k x y _ _ h
    cases alike_of_append h with
    | null => exact ⟨rfl, List.append_cancel_left h⟩
  | bool value =>
    intro k x y _ _ h
    cases alike_of_append h with
    | bool _ other =>
      have hsame : value = other := by
        cases value <;> cases other <;> first | rfl | exact absurd (List.cons.inj h).1 (by decide)
      subst hsame
      exact ⟨rfl, List.append_cancel_left h⟩
  | number value =>
    intro k x y hx hy h
    cases alike_of_append h with
    | number _ other =>
      obtain ⟨rfl, hxy⟩ := integerText_cut hx hy h
      exact ⟨rfl, hxy⟩
  | string value =>
    intro k x y _ _ h
    cases alike_of_append h with
    | string _ other =>
      obtain ⟨rfl, hxy⟩ := stringChars_cut h
      exact ⟨rfl, hxy⟩
  | array items ih =>
    intro k x y _ _ h
    cases alike_of_append h with
    | array _ others =>
      simp only [compactChars, compactItems_eq, List.append_assoc, List.cons_append,
        List.nil_append] at h
      obtain ⟨rfl, hxy⟩ := separated_cut (by decide) (by decide) (compactChars_append_ne rfl) ih
        (List.cons.inj h).2
      exact ⟨rfl, hxy⟩
  | object fields ih =>
    intro k x y _ _ h
    cases alike_of_append h with
    | object _ others =>
      simp only [compactChars, compactFields_eq, List.append_assoc, List.cons_append,
        List.nil_append] at h
      obtain ⟨rfl, hxy⟩ := separated_cut (by decide) (by decide) (fieldChars_append_ne (by decide))
        (fun field hfield => readable_field (ih field hfield)) (List.cons.inj h).2
      exact ⟨rfl, hxy⟩

/-- Documents that are written in one way are the same. -/
theorem compact_inj {j k : Json} (h : j.compact = k.compact) : j = k := by
  have htext : j.compactChars ++ [] = k.compactChars ++ [] := by rw [String.ofList_inj.mp h]
  exact (readable j endsDigits_nil endsDigits_nil htext).1

/-! ## Control characters -/

/-- No control character is in the text, nor a line break. -/
def Graphic (text : List Char) : Prop := ∀ c ∈ text, 0x20 ≤ c.toNat

theorem Graphic.of_all {text : List Char} (h : (text.all fun c => 0x20 ≤ c.toNat) = true) :
    Graphic text := fun c hc =>
  of_decide_eq_true (List.all_eq_true.mp h c hc)

theorem Graphic.cons {c : Char} {text : List Char} (hc : 0x20 ≤ c.toNat) (h : Graphic text) :
    Graphic (c :: text) :=
  List.forall_mem_cons.mpr ⟨hc, h⟩

theorem Graphic.append {a b : List Char} (ha : Graphic a) (hb : Graphic b) : Graphic (a ++ b) :=
  List.forall_mem_append.mpr ⟨ha, hb⟩

theorem le_of_isDigit {c : Char} (h : c.isDigit = true) : 0x20 ≤ c.toNat := by
  have hlow : '0'.toNat ≤ c.toNat := by
    simp only [Char.isDigit, Bool.and_eq_true, decide_eq_true_eq] at h
    exact UInt32.le_iff_toNat_le.mp h.1
  exact Nat.le_trans (by decide) hlow

theorem le_digitChar : ∀ d < 16, 0x20 ≤ (Nat.digitChar d).toNat := by
  decide

theorem graphic_stringChar (c : Char) : Graphic (stringChar c) := by
  unfold stringChar
  split
  case h_8 =>
    split
    · next hcontrol =>
      have hdigits : Graphic [Nat.digitChar (c.toNat / 16), Nat.digitChar (c.toNat % 16)] :=
        .cons (le_digitChar _ (by omega)) (.cons (le_digitChar _ (by omega)) (.of_all rfl))
      have hmark : Graphic ['\\', 'u', '0', '0'] := .of_all (by decide)
      exact hmark.append hdigits
    · next hplain => exact .cons (Nat.not_lt.mp hplain) (.of_all rfl)
  all_goals exact .of_all (by decide)

theorem graphic_stringChars (value : String) : Graphic (stringChars value) := by
  refine .append (.cons (by decide) fun d hd => ?_) (.of_all (by decide))
  obtain ⟨c, _, hmem⟩ := List.mem_flatMap.mp hd
  exact graphic_stringChar c d hmem

theorem graphic_fieldChars {field : String × Json} (h : Graphic field.2.compactChars) :
    Graphic (fieldChars field) :=
  .append (graphic_stringChars field.1) (.cons (by decide) h)

theorem graphic_separated {α : Type} {write : α → List Char} {as : List α}
    (h : ∀ a ∈ as, Graphic (write a)) : Graphic (separated write as) := by
  intro c hc
  rcases of_mem_separated hc with rfl | ⟨a, ha, hmem⟩
  · decide
  · exact h a ha c hmem

/-- A document is written without control characters, line breaks among them. -/
theorem graphic_compactChars (json : Json) : Graphic json.compactChars := by
  induction json using inductionOn with
  | null => exact .of_all (by decide)
  | bool value => cases value <;> exact .of_all (by decide)
  | number value =>
    intro c hc
    rcases of_mem_integerText hc with rfl | hdigit
    · decide
    · exact le_of_isDigit hdigit
  | string value => exact graphic_stringChars value
  | array items ih =>
    rw [compactChars, compactItems_eq]
    exact .append (.cons (by decide) (graphic_separated ih)) (.of_all (by decide))
  | object fields ih =>
    rw [compactChars, compactFields_eq]
    have hfields : ∀ field ∈ fields, Graphic (fieldChars field) :=
      fun field hmem => graphic_fieldChars (ih field hmem)
    exact .append (.cons (by decide) (graphic_separated hfields)) (.of_all (by decide))

end Json

end Overseer
