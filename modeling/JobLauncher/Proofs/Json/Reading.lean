import JobLauncher.Json.Printer
import JobLauncher.Json.Reader

/-!
# Printed JSON reads back

Values are printed over several lines for people to read, and read again by programs. Reading tells
nothing of the layout: blanks are skipped, escapes come to the characters they stand for, and of the
fields of an object only what they say is kept. So a value reads back as it was if reading could
give it at all, its objects listing their fields in key order and its numbers short enough to stay
whole (`Plain`).

The reader has fuel for the depth of its recursion. A value takes no more of it than it has
characters, which is what the induction over the value carries along.

> `parse?_pretty`: what is printed of a plain value reads back as that value.
-/

namespace JobLauncher.Json

/-- A value as it is read: objects list their fields in key order, each key once, and numbers are
natural numbers of 64 bits. -/
inductive Plain : Json → Prop where
  | null : Plain .null
  | bool (b : Bool) : Plain (.bool b)
  | nat {n : Nat} (hfits : n < UInt64.size) : Plain (Json.nat n)
  | str (s : String) : Plain (.str s)
  | arr {items : List Json} (hitems : ∀ v ∈ items, Plain v) : Plain (.arr items)
  | obj {fields : List (String × Json)} (hsorted : fields.Pairwise fun a b => a.1 < b.1)
      (hfields : ∀ f ∈ fields, Plain f.2) : Plain (.obj fields)

theorem exists_add_one_of_lt {n fuel : Nat} (h : n < fuel) : ∃ fuel', fuel = fuel' + 1 :=
  ⟨fuel - 1, by omega⟩

/-! ## Blanks -/

/-- Nothing is skipped where no blank stands. -/
theorem skipSpace_of_not_isSpace {c : Char} (h : isSpace c = false) (cs : List Char) :
    skipSpace (c :: cs) = c :: cs := by
  rw [skipSpace, List.dropWhile_cons, h]
  rfl

theorem skipSpace_space (cs : List Char) : skipSpace (' ' :: cs) = skipSpace cs := rfl

/-- The break of a line and its indentation are skipped. -/
theorem skipSpace_newLine (level : Nat) (cs : List Char) :
    skipSpace (newLine level ++ cs) = skipSpace cs := by
  have hblank : ∀ c ∈ newLine level, isSpace c = true := by
    intro c hc
    rcases List.mem_cons.mp hc with rfl | hc
    · rfl
    · rw [List.eq_of_mem_replicate hc]
      rfl
  rw [skipSpace, List.dropWhile_append_of_pos hblank]
  rfl

/-- The value reader skips what stands before the value. -/
theorem readValue_congr {fuel : Nat} {cs cs' : List Char} (h : skipSpace cs = skipSpace cs') :
    readValue fuel cs = readValue fuel cs' := by
  cases fuel with
  | zero => rw [readValue, readValue]
  | succ fuel => rw [readValue, readValue, h]

/-! ## Texts -/

/-- Four digits in base 16 are read without a look at what follows. -/
theorem readHex4_append {ds : List Char} {n : Nat} (h : readHex4 ds = some (n, []))
    (cs : List Char) : readHex4 (ds ++ cs) = some (n, cs) := by
  match ds with
  | a :: b :: c :: d :: rest =>
    simp only [readHex4, Option.bind_eq_bind, Option.bind_eq_some_iff, Option.pure_def,
      Option.some.injEq, Prod.mk.injEq] at h
    obtain ⟨a', ha, b', hb, c', hc, d', hd, rfl, rfl⟩ := h
    simp [readHex4, ha, hb, hc, hd]
  | [] | [_] | [_, _] | [_, _, _] => cases h

/-- A control is read back from its number. -/
theorem readUnicodeEscape_hexPadded {n : Nat} (h : n < 32) (cs : List Char) :
    readUnicodeEscape (Text.hexPadded 4 n ++ cs) = some (Char.ofNat n, cs) := by
  have hread : ∀ n < 32, readHex4 (Text.hexPadded 4 n) = some (n, []) := by decide
  have hlow : ¬(0xD800 ≤ n ∧ n < 0xDC00) := by omega
  have hhigh : ¬(0xDC00 ≤ n ∧ n < 0xE000) := by omega
  simp [readUnicodeEscape, readHex4_append (hread n h), hlow, hhigh]

/-- A character reads back from whatever it is written as. -/
theorem readText_escapeChar (done : List Char) (fuel : Nat) (c : Char) (cs : List Char) :
    readText done (fuel + 1) (escapeChar c ++ cs) = readText (c :: done) fuel cs := by
  have heq {n : Nat} (h : c.toNat = n) : Char.ofNat n = c := by rw [← h, Char.ofNat_toNat]
  unfold escapeChar
  split
  next h => subst h; simp [readText, simpleEscape?]
  split
  next h => subst h; simp [readText, simpleEscape?]
  split
  next h => subst h; simp [readText, simpleEscape?]
  split
  next h => subst h; simp [readText, simpleEscape?]
  split
  next h => subst h; simp [readText, simpleEscape?]
  split
  next h => obtain rfl := heq h; simp [readText, simpleEscape?]
  split
  next h => obtain rfl := heq h; simp [readText, simpleEscape?]
  split
  next h => simp [readText, readUnicodeEscape_hexPadded h, heq rfl]
  next hquote hbackslash _ _ _ _ _ hcontrol => simp [readText, hquote, hbackslash, hcontrol]

/-- An escaped text is read up to the quote that closes it, character by character. -/
theorem readText_flatMap (s : List Char) (done : List Char) {fuel : Nat} (h : s.length < fuel)
    (rest : List Char) :
    readText done fuel (s.flatMap escapeChar ++ '"' :: rest)
      = some (String.ofList (done.reverse ++ s), rest) := by
  induction s generalizing done fuel with
  | nil =>
    obtain ⟨fuel, rfl⟩ := exists_add_one_of_lt h
    simp [readText]
  | cons c s ih =>
    obtain ⟨fuel, rfl⟩ := exists_add_one_of_lt h
    rw [List.flatMap_cons, List.append_assoc, readText_escapeChar, ih _ (Nat.lt_of_succ_lt_succ h),
      List.reverse_cons, List.append_assoc]
    rfl

theorem escapeChar_ne_nil (c : Char) : escapeChar c ≠ [] := by
  unfold escapeChar
  repeat' split
  all_goals simp

/-- So a text is no longer than it is written. -/
theorem length_le_flatMap_escapeChar (s : List Char) :
    s.length ≤ (s.flatMap escapeChar).length := by
  induction s with
  | nil => exact Nat.zero_le _
  | cons c s ih =>
    have hone : 0 < (escapeChar c).length := List.length_pos_iff.mpr (escapeChar_ne_nil c)
    rw [List.flatMap_cons, List.length_append, List.length_cons]
    omega

/-- The text between quotes, after the opening one. -/
def unopened (s : String) : List Char := s.toList.flatMap escapeChar ++ ['"']

theorem quote_eq (s : String) : quote s = '"' :: unopened s := by
  rw [quote, unopened, List.append_assoc]
  rfl

/-- The fuel that a text has is always enough. -/
theorem readText_unopened (s : String) (rest : List Char) :
    readText [] ((unopened s ++ rest).length + 1) (unopened s ++ rest) = some (s, rest) := by
  have hfuel : s.toList.length < (unopened s ++ rest).length + 1 := by
    have hlength := length_le_flatMap_escapeChar s.toList
    simp only [unopened, List.length_append]
    omega
  rw [unopened, List.append_assoc] at hfuel ⊢
  have hread := readText_flatMap s.toList [] hfuel rest
  rw [List.reverse_nil, List.nil_append, String.ofList_toList] at hread
  exact hread

/-! ## Numbers -/

/-- What follows a value: nothing, a comma or the end of the line. A number does not go on there. -/
def Ended (rest : List Char) : Prop := ∀ c ∈ rest.head?, c = ',' ∨ c = '\n'

theorem ended_newLine (level : Nat) (cs : List Char) : Ended (newLine level ++ cs) := by
  intro c hc
  exact .inr (Option.some.inj hc).symm

theorem ended_comma (cs : List Char) : Ended (',' :: cs) := by
  intro c hc
  exact .inl (Option.some.inj hc).symm

/-- So what follows is empty or begins with one of the two. -/
theorem Ended.cases {rest : List Char} (h : Ended rest) :
    rest = [] ∨ (∃ cs, rest = ',' :: cs) ∨ ∃ cs, rest = '\n' :: cs := by
  match rest with
  | [] => exact .inl rfl
  | c :: cs =>
    rcases h c rfl with rfl | rfl
    · exact .inr (.inl ⟨cs, rfl⟩)
    · exact .inr (.inr ⟨cs, rfl⟩)

/-- A natural number is printed by its digits. -/
theorem digits_nat (n : Nat) : (Number.int n).toText.toList = Nat.toDigits 10 n := by
  show (Nat.repr n).toList = _
  exact Nat.toList_repr

/-- Only the number zero begins with a zero. -/
theorem head?_toDigits {n : Nat} (h : 0 < n) : (Nat.toDigits 10 n).head? ≠ some '0' := by
  induction n using Nat.strongRecOn with
  | ind n ih =>
    by_cases hone : n < 10
    · have hdigit : ∀ n < 10, 0 < n → n.digitChar ≠ '0' := by decide
      rw [Nat.toDigits_of_lt_base hone]
      exact fun heq => hdigit n hone h (Option.some.inj heq)
    · have hge : 10 ≤ n := Nat.le_of_not_lt hone
      have hfirst := ih (n / 10) (Nat.div_lt_self h (by decide)) (Nat.div_pos hge (by decide))
      obtain ⟨d, ds, hds⟩ :=
        List.exists_cons_of_ne_nil (Nat.toDigits_ne_nil (n := n / 10) (b := 10))
      rw [hds] at hfirst
      rw [Nat.toDigits_of_base_le (by decide) hge, hds]
      exact hfirst

/-- No fraction begins where a number has ended. -/
theorem readFraction_of_ended {rest : List Char} (h : Ended rest) :
    readFraction rest = some (none, rest) := by
  rcases h.cases with rfl | ⟨cs, rfl⟩ | ⟨cs, rfl⟩ <;> rfl

theorem readExponent_of_ended {rest : List Char} (h : Ended rest) :
    readExponent rest = some (none, rest) := by
  rcases h.cases with rfl | ⟨cs, rfl⟩ | ⟨cs, rfl⟩ <;> rfl

/-- The digits of a number end where it ends. -/
theorem takeWhile_digits {ds rest : List Char} (hds : ∀ c ∈ ds, c.isDigit = true)
    (hrest : Ended rest) :
    (ds ++ rest).takeWhile Char.isDigit = ds ∧ (ds ++ rest).dropWhile Char.isDigit = rest := by
  have hend : rest.takeWhile Char.isDigit = [] ∧ rest.dropWhile Char.isDigit = rest := by
    rcases hrest.cases with rfl | ⟨cs, rfl⟩ | ⟨cs, rfl⟩ <;> exact ⟨rfl, rfl⟩
  rw [List.takeWhile_append_of_pos hds, List.dropWhile_append_of_pos hds, hend.1, hend.2,
    List.append_nil]
  exact ⟨rfl, rfl⟩

/-- The digits of a number of 64 bits are read as that number. -/
theorem readNumber_nat {n : Nat} (hfits : n < UInt64.size) {rest : List Char} (hrest : Ended rest) :
    readNumber (Nat.toDigits 10 n ++ rest) = some (.int n, rest) := by
  have hdigits : ∀ c ∈ Nat.toDigits 10 n, c.isDigit = true :=
    fun c hc => Nat.isDigit_of_mem_toDigits (by decide) (by decide) hc
  obtain ⟨htake, hdrop⟩ := takeWhile_digits hdigits hrest
  have hleading : ((Nat.toDigits 10 n).isEmpty
      || (decide (1 < (Nat.toDigits 10 n).length) && (Nat.toDigits 10 n).head? == some '0'))
        = false := by
    rw [List.isEmpty_eq_false_iff.mpr Nat.toDigits_ne_nil, Bool.false_or]
    rcases Nat.eq_zero_or_pos n with rfl | hpos
    · rfl
    · rw [beq_eq_false_iff_ne.mpr (head?_toDigits hpos), Bool.and_false]
  -- the first character is a digit, and so it is no sign
  have hminus : readMinus (Nat.toDigits 10 n ++ rest) = (false, Nat.toDigits 10 n ++ rest) := by
    obtain ⟨d, ds, hds⟩ := List.exists_cons_of_ne_nil (Nat.toDigits_ne_nil (n := n) (b := 10))
    have hd : d.isDigit = true := hdigits d (hds ▸ List.mem_cons_self)
    rw [hds]
    unfold readMinus
    split
    next heq =>
      cases heq
      cases hd
    next => rfl
  simp [readNumber, hminus, htake, hdrop, hleading, readFraction_of_ended hrest,
    readExponent_of_ended hrest, Nat.ofDigitChars_ten_toDigits, hfits]

/-! ## Values -/

theorem isSpace_of_isDigit {c : Char} (hc : c.isDigit = true) : isSpace c = false := by
  refine Bool.eq_false_iff.mpr fun hspace => ?_
  simp only [isSpace, Bool.or_eq_true, beq_iff_eq] at hspace
  rcases hspace with ((rfl | rfl) | rfl) | rfl <;> cases hc

/-- Where a digit stands, a number is read. -/
theorem readValue_of_isDigit {c : Char} (hc : c.isDigit = true) (fuel : Nat) (cs : List Char) :
    readValue (fuel + 1) (c :: cs) = (readNumber (c :: cs)).map fun r => (.num r.1, r.2) := by
  rw [readValue, skipSpace_of_not_isSpace (isSpace_of_isDigit hc)]
  split
  case h_7 => rfl
  all_goals
    next heq =>
      cases heq
      cases hc

/-- A text in quotes is read as the text. -/
theorem readValue_quote (s : String) (fuel : Nat) (rest : List Char) :
    readValue (fuel + 1) (quote s ++ rest) = some (.str s, rest) := by
  rw [quote_eq, readValue]
  show (readText [] ((unopened s ++ rest).length + 1) (unopened s ++ rest)).map _ = _
  rw [readText_unopened]
  rfl

/-- Nor do blanks matter before an item. -/
theorem readItems_congr {fuel : Nat} {done : List Json} {cs cs' : List Char}
    (h : skipSpace cs = skipSpace cs') : readItems fuel done cs = readItems fuel done cs' := by
  cases fuel with
  | zero => rw [readItems, readItems]
  | succ fuel => rw [readItems, readItems, readValue_congr h]

theorem readFields_congr {fuel : Nat} {done : List (String × Json)} {cs cs' : List Char}
    (h : skipSpace cs = skipSpace cs') : readFields fuel done cs = readFields fuel done cs' := by
  cases fuel with
  | zero => rw [readFields, readFields]
  | succ fuel => rw [readFields, readFields, h]

/-- A list that is not empty is read item by item. -/
theorem readValue_items {cs rest : List Char} {c : Char} (hfirst : skipSpace cs = c :: rest)
    (hspace : isSpace c = false) (hclose : c ≠ ']') (fuel : Nat) :
    readValue (fuel + 1) ('[' :: cs) = (readItems fuel [] cs).map fun r => (.arr r.1, r.2) := by
  have hopen : skipSpace ('[' :: cs) = '[' :: cs := rfl
  have hskip : skipSpace (c :: rest) = skipSpace cs := by
    rw [skipSpace_of_not_isSpace hspace, hfirst]
  rw [readValue, hopen]
  simp only [hfirst]
  split
  next heq => exact absurd (List.cons.inj heq).1 hclose
  next => rw [readItems_congr hskip]

/-- An object that is not empty is read field by field. -/
theorem readValue_fields {cs rest : List Char} {c : Char} (hfirst : skipSpace cs = c :: rest)
    (hspace : isSpace c = false) (hclose : c ≠ '\x7d') (fuel : Nat) :
    readValue (fuel + 1) ('\x7b' :: cs)
      = (readFields fuel [] cs).map fun r => (object r.1, r.2) := by
  have hopen : skipSpace ('\x7b' :: cs) = '\x7b' :: cs := rfl
  have hskip : skipSpace (c :: rest) = skipSpace cs := by
    rw [skipSpace_of_not_isSpace hspace, hfirst]
  rw [readValue, hopen]
  simp only [hfirst]
  split
  next heq => exact absurd (List.cons.inj heq).1 hclose
  next => rw [readFields_congr hskip]

/-- The value is what is read where it is printed, at whatever level and with fuel for as many
characters. -/
def ReadsBack (v : Json) : Prop :=
  ∀ (level fuel : Nat) (rest : List Char), Ended rest → (prettyChars level v).length < fuel →
    readValue fuel (prettyChars level v ++ rest) = some (v, rest)

/-- What follows an item or a field is a comma or the end of the line. -/
theorem ended_prettyItems (level close : Nat) (items : List Json) (cs : List Char) :
    Ended (prettyItems level items ++ (newLine close ++ cs)) := by
  cases items with
  | nil => exact ended_newLine close cs
  | cons v rest => exact ended_comma _

theorem ended_prettyFields (level close : Nat) (fields : List (String × Json)) (cs : List Char) :
    Ended (prettyFields level fields ++ (newLine close ++ cs)) := by
  cases fields with
  | nil => exact ended_newLine close cs
  | cons f rest => exact ended_comma _

/-- After a key and a colon comes a value, and then the next field or the end. -/
theorem readFields_quote (fuel : Nat) (done : List (String × Json)) (k : String)
    (cs : List Char) :
    readFields (fuel + 1) done (quote k ++ ':' :: cs)
      = (readValue fuel cs).bind fun r => match skipSpace r.2 with
        | ',' :: rest => readFields fuel ((k, r.1) :: done) rest
        | '\x7d' :: rest => some (((k, r.1) :: done).reverse, rest)
        | _ => none := by
  have hskip : skipSpace (quote k ++ ':' :: cs) = '"' :: (unopened k ++ ':' :: cs) := by
    rw [quote_eq]
    rfl
  rw [readFields, hskip]
  simp only [Option.bind_eq_bind, readText_unopened, Option.bind_some]
  rfl

/-- Items that read back are read one after another. -/
theorem readItems_pretty (level close : Nat) {items : List Json}
    (hitems : ∀ v ∈ items, ReadsBack v) {v : Json} (hv : ReadsBack v) (done : List Json)
    {fuel : Nat} (hfuel : (prettyChars level v ++ prettyItems level items).length + 1 < fuel)
    (rest : List Char) :
    readItems fuel done
        (prettyChars level v ++ (prettyItems level items ++ (newLine close ++ ']' :: rest)))
      = some (done.reverse ++ v :: items, rest) := by
  induction items generalizing v done fuel with
  | nil =>
    obtain ⟨fuel, rfl⟩ := exists_add_one_of_lt hfuel
    have hread := hv level fuel _ (ended_prettyItems level close [] (']' :: rest)) (by
      simp only [List.length_append] at hfuel
      omega)
    rw [readItems, hread]
    simp only [Option.bind_eq_bind, Option.bind_some, prettyItems, List.nil_append,
      skipSpace_newLine]
    show some ((v :: done).reverse, rest) = _
    rw [List.reverse_cons]
  | cons w items ih =>
    obtain ⟨hw, hitems⟩ := List.forall_mem_cons.mp hitems
    obtain ⟨fuel, rfl⟩ := exists_add_one_of_lt hfuel
    simp only [prettyItems, List.length_append, List.length_cons, List.length_nil] at hfuel
    have hread := hv level fuel _ (ended_prettyItems level close (w :: items) (']' :: rest))
      (by omega)
    have hshort : (prettyChars level w ++ prettyItems level items).length + 1 < fuel := by
      rw [List.length_append]
      omega
    have hrest := ih hitems hw (v :: done) hshort
    rw [readItems, hread]
    simp only [Option.bind_eq_bind, Option.bind_some, prettyItems, List.append_assoc]
    show readItems fuel (v :: done) (newLine level ++ _) = _
    rw [readItems_congr (skipSpace_newLine level _), hrest, List.reverse_cons, List.append_assoc]
    rfl

/-- So are fields, each after its key. -/
theorem readFields_pretty (level close : Nat) {fields : List (String × Json)}
    (hfields : ∀ f ∈ fields, ReadsBack f.2) (k : String) {v : Json} (hv : ReadsBack v)
    (done : List (String × Json)) {fuel : Nat}
    (hfuel : (prettyChars level v ++ prettyFields level fields).length + 1 < fuel)
    (rest : List Char) :
    readFields fuel done (quote k ++ (':' :: ' ' :: (prettyChars level v
        ++ (prettyFields level fields ++ (newLine close ++ '\x7d' :: rest)))))
      = some (done.reverse ++ (k, v) :: fields, rest) := by
  induction fields generalizing k v done fuel with
  | nil =>
    obtain ⟨fuel, rfl⟩ := exists_add_one_of_lt hfuel
    have hread := hv level fuel _ (ended_prettyFields level close [] ('\x7d' :: rest)) (by
      simp only [List.length_append] at hfuel
      omega)
    rw [readFields_quote, readValue_congr (skipSpace_space _), hread]
    simp only [Option.bind_some, prettyFields, List.nil_append, skipSpace_newLine]
    show some (((k, v) :: done).reverse, rest) = _
    rw [List.reverse_cons]
  | cons f fields ih =>
    obtain ⟨k', w⟩ := f
    obtain ⟨hw, hfields⟩ := List.forall_mem_cons.mp hfields
    obtain ⟨fuel, rfl⟩ := exists_add_one_of_lt hfuel
    simp only [prettyFields, List.length_append, List.length_cons, List.length_nil] at hfuel
    have hread := hv level fuel _ (ended_prettyFields level close ((k', w) :: fields)
      ('\x7d' :: rest)) (by omega)
    have hshort : (prettyChars level w ++ prettyFields level fields).length + 1 < fuel := by
      rw [List.length_append]
      omega
    have hrest := ih hfields k' hw ((k, v) :: done) hshort
    rw [readFields_quote, readValue_congr (skipSpace_space _), hread]
    simp only [Option.bind_some, prettyFields, List.append_assoc]
    show readFields fuel ((k, v) :: done) (newLine level ++ _) = _
    rw [readFields_congr (skipSpace_newLine level _)]
    refine Eq.trans ?_ (hrest.trans ?_)
    · rfl
    · rw [List.reverse_cons, List.append_assoc]
      rfl

/-- The fields of an object in key order are its fields. -/
theorem object_of_sorted {fields : List (String × Json)}
    (h : fields.Pairwise fun a b => a.1 < b.1) : object fields = .obj fields :=
  congrArg Json.obj (Dict.entries_insertAll (d := Dict.empty) h)

/-- What is printed begins with something that is neither a blank nor the end of a list. -/
theorem Plain.exists_prettyChars {v : Json} (h : Plain v) (level : Nat) :
    ∃ c cs, prettyChars level v = c :: cs ∧ isSpace c = false ∧ c ≠ ']' := by
  cases h with
  | null => exact ⟨_, _, rfl, rfl, by decide⟩
  | bool b => cases b <;> exact ⟨_, _, rfl, rfl, by decide⟩
  | str s => exact ⟨_, _, rfl, rfl, by decide⟩
  | @arr items hitems =>
    cases items with
    | _ => exact ⟨_, _, rfl, rfl, by decide⟩
  | @obj fields hsorted hfields =>
    cases fields with
    | _ => exact ⟨_, _, rfl, rfl, by decide⟩
  | @nat n hfits =>
    obtain ⟨d, ds, hds⟩ := List.exists_cons_of_ne_nil (Nat.toDigits_ne_nil (n := n) (b := 10))
    have hd : d.isDigit = true :=
      Nat.isDigit_of_mem_toDigits (by decide) (by decide) (hds ▸ List.mem_cons_self)
    refine ⟨d, ds, (digits_nat n).trans hds, isSpace_of_isDigit hd, ?_⟩
    rintro rfl
    cases hd

namespace ReadsBack

/-- Numbers of 64 bits read back. -/
theorem nat {n : Nat} (hfits : n < UInt64.size) : ReadsBack (Json.nat n) := by
  intro level fuel rest hrest hfuel
  obtain ⟨fuel, rfl⟩ := exists_add_one_of_lt hfuel
  have hchars : prettyChars level (Json.nat n) = Nat.toDigits 10 n := digits_nat n
  have hnumber := readNumber_nat hfits hrest
  obtain ⟨d, ds, hds⟩ := List.exists_cons_of_ne_nil (Nat.toDigits_ne_nil (n := n) (b := 10))
  have hd : d.isDigit = true :=
    Nat.isDigit_of_mem_toDigits (by decide) (by decide) (hds ▸ List.mem_cons_self)
  rw [hds, List.cons_append] at hnumber
  rw [hchars, hds, List.cons_append, readValue_of_isDigit hd, hnumber]
  rfl

/-- A list reads back if its items do. -/
theorem arr {items : List Json} (hplain : ∀ v ∈ items, Plain v)
    (hitems : ∀ v ∈ items, ReadsBack v) : ReadsBack (.arr items) := by
  intro level fuel rest hrest hfuel
  obtain ⟨fuel, rfl⟩ := exists_add_one_of_lt hfuel
  cases items with
  | nil => rfl
  | cons v items =>
    obtain ⟨hv, hitems⟩ := List.forall_mem_cons.mp hitems
    obtain ⟨c, cs, hchars, hspace, hclose⟩ :=
      (hplain v List.mem_cons_self).exists_prettyChars (level + 1)
    simp only [prettyChars, List.length_append, List.length_cons, List.length_nil] at hfuel
    -- the brackets and the ends of two lines leave more fuel than the items take
    have henough :
        (prettyChars (level + 1) v ++ prettyItems (level + 1) items).length + 1 < fuel := by
      rw [List.length_append]
      omega
    have hread := readItems_pretty (level + 1) level hitems hv [] henough rest
    rw [← readItems_congr (skipSpace_newLine (level + 1) _)] at hread
    have hfirst : skipSpace (newLine (level + 1) ++ (prettyChars (level + 1) v
        ++ (prettyItems (level + 1) items ++ (newLine level ++ ']' :: rest))))
        = c :: (cs ++ (prettyItems (level + 1) items ++ (newLine level ++ ']' :: rest))) := by
      rw [skipSpace_newLine, hchars]
      exact skipSpace_of_not_isSpace hspace _
    have hvalue := readValue_items hfirst hspace hclose fuel
    rw [hread] at hvalue
    refine Eq.trans ?_ hvalue
    simp only [prettyChars, List.append_assoc]
    rfl

/-- An object reads back if its fields do and are in the order of their keys. -/
theorem obj {fields : List (String × Json)} (hsorted : fields.Pairwise fun a b => a.1 < b.1)
    (hfields : ∀ f ∈ fields, ReadsBack f.2) : ReadsBack (.obj fields) := by
  intro level fuel rest hrest hfuel
  obtain ⟨fuel, rfl⟩ := exists_add_one_of_lt hfuel
  cases fields with
  | nil => rfl
  | cons f fields =>
    obtain ⟨k, v⟩ := f
    obtain ⟨hv, hfields⟩ := List.forall_mem_cons.mp hfields
    simp only [prettyChars, List.length_append, List.length_cons, List.length_nil] at hfuel
    have henough :
        (prettyChars (level + 1) v ++ prettyFields (level + 1) fields).length + 1 < fuel := by
      rw [List.length_append]
      omega
    have hread := readFields_pretty (level + 1) level hfields k hv [] henough rest
    rw [← readFields_congr (skipSpace_newLine (level + 1) _)] at hread
    have hfirst : skipSpace (newLine (level + 1) ++ (quote k ++ (':' :: ' ' ::
        (prettyChars (level + 1) v
          ++ (prettyFields (level + 1) fields ++ (newLine level ++ '\x7d' :: rest))))))
        = '"' :: (unopened k ++ (':' :: ' ' :: (prettyChars (level + 1) v
          ++ (prettyFields (level + 1) fields ++ (newLine level ++ '\x7d' :: rest))))) := by
      rw [skipSpace_newLine, quote_eq]
      rfl
    have hvalue := readValue_fields hfirst rfl (by decide) fuel
    -- reading sorts the fields and drops repeated keys; in key order there is nothing to do
    rw [hread, Option.map_some, List.reverse_nil, List.nil_append, object_of_sorted hsorted]
      at hvalue
    refine Eq.trans ?_ hvalue
    simp only [prettyChars, List.append_assoc]
    rfl

end ReadsBack

/-- A plain value reads back, level by level. -/
theorem Plain.readsBack {v : Json} (h : Plain v) : ReadsBack v := by
  induction h with
  | null =>
    intro level fuel rest hrest hfuel
    obtain ⟨fuel, rfl⟩ := exists_add_one_of_lt hfuel
    rfl
  | bool b =>
    intro level fuel rest hrest hfuel
    obtain ⟨fuel, rfl⟩ := exists_add_one_of_lt hfuel
    cases b <;> rfl
  | nat hfits => exact .nat hfits
  | str s =>
    intro level fuel rest hrest hfuel
    obtain ⟨fuel, rfl⟩ := exists_add_one_of_lt hfuel
    exact readValue_quote s fuel rest
  | arr hitems ih => exact .arr hitems ih
  | obj hsorted hfields ih => exact .obj hsorted ih

/-- What is printed of a plain value, with the end of its last line, reads back as that value. -/
theorem parse?_pretty {v : Json} (h : Plain v) : parse? (v.pretty ++ "\n") = some v := by
  have hchars : (v.pretty ++ "\n").toList = prettyChars 0 v ++ ['\n'] := by
    rw [String.toList_append, pretty, String.toList_ofList]
    rfl
  have hread : readValue ((prettyChars 0 v ++ ['\n']).length + 1) (prettyChars 0 v ++ ['\n'])
      = some (v, ['\n']) := by
    refine h.readsBack 0 _ _ (ended_newLine 0 []) ?_
    rw [List.length_append]
    omega
  rw [parse?, hchars]
  simp only [hread]
  rfl

end JobLauncher.Json
