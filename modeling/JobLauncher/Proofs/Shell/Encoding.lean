import JobLauncher.Proofs.Text.ByteOrder
import JobLauncher.Shell.Quote
import JobLauncher.Shell.Run

/-!
# Quoted texts as bytes

A text is quoted as characters, and a shell reads its bytes. The two meet because UTF-8 keeps ASCII
to itself: a character beyond it is written by bytes that are no characters of ASCII, so none of
them is safe and none is an apostrophe.

> `ofText_quote`: the bytes of a quoted text are its bytes, quoted.
-/

namespace JobLauncher.Shell

/-! ## The bytes of a text -/

/-- The loop over the bytes comes to the bytes. -/
theorem toList_loop_eq (b : ByteArray) (i : Nat) (read : List UInt8) :
    ByteArray.toList.loop b i read = read.reverse ++ b.data.toList.drop i := by
  fun_induction ByteArray.toList.loop b i read with
  | case1 i read hi ih =>
    have hi' : i < b.data.toList.length := by rw [Array.length_toList]; exact hi
    have hget : b.get! i = b.data.toList[i] := by
      rw [ByteArray.get!, getElem!_pos b.data i hi, Array.getElem_toList]
    rw [ih, hget, List.reverse_cons, List.append_assoc, List.singleton_append,
      List.getElem_cons_drop]
  | case2 i read hi =>
    have hend : b.data.toList.length ≤ i := by rw [Array.length_toList]; exact Nat.le_of_not_lt hi
    rw [List.drop_eq_nil_of_le hend, List.append_nil]

/-- The bytes that a character is written by. -/
def encoded (c : Char) : Bytes := (String.utf8EncodeChar c).map fun b => Char.ofNat b.toNat

theorem encoded_ne_nil (c : Char) : encoded c ≠ [] :=
  fun h => Text.utf8EncodeChar_ne_nil c (List.map_eq_nil_iff.mp h)

/-- A text is encoded character by character. -/
theorem ofText_eq_flatMap (s : String) : Bytes.ofText s = s.toList.flatMap encoded := by
  have hutf8 : s.toUTF8.toList = s.toList.flatMap String.utf8EncodeChar := by
    rw [← Text.utf8_eq_flatMap, ByteArray.toList, toList_loop_eq]
    rfl
  rw [Bytes.ofText, hutf8, List.map_flatMap]
  rfl

theorem ofText_append (s t : String) :
    Bytes.ofText (s ++ t) = Bytes.ofText s ++ Bytes.ofText t := by
  rw [ofText_eq_flatMap, ofText_eq_flatMap, ofText_eq_flatMap, String.toList_append,
    List.flatMap_append]

/-! ## Characters of ASCII and others -/

/-- A character of ASCII is its own byte. -/
theorem encoded_of_ascii {c : Char} (h : c.toNat < 128) : encoded c = [c] := by
  have hval : c.val.toNat ≤ 0x7f := Nat.le_of_lt_succ h
  have hbyte : (UInt8.ofNat c.val.toNat).toNat = c.toNat := by
    rw [UInt8.toNat_ofNat', Nat.mod_eq_of_lt (by omega)]
    rfl
  rw [encoded, String.utf8EncodeChar]
  simp only [hval, if_true, List.map_cons, List.map_nil, hbyte, Char.ofNat_toNat]

/-- The bytes of any other character are no characters of ASCII. -/
theorem le_of_mem_encoded {c d : Char} (h : 128 ≤ c.toNat) (hd : d ∈ encoded c) :
    128 ≤ d.toNat := by
  obtain ⟨b, hb, rfl⟩ := List.mem_map.mp hd
  have hval : ¬ c.val.toNat ≤ 0x7f := Nat.not_le.mpr h
  have hbyte : 128 ≤ b.toNat := by
    rw [String.utf8EncodeChar] at hb
    generalize c.val.toNat = v at hb hval
    simp only [hval, if_false] at hb
    split_ifs at hb <;>
      simp only [List.mem_cons, List.not_mem_nil, or_false] at hb <;>
      rcases hb with rfl | rfl | rfl | rfl <;>
      simp only [UInt8.toNat_ofNat'] <;> omega
  have hvalid : b.toNat.isValidChar := .inl (Nat.lt_trans b.toNat_lt (by decide))
  rw [Char.ofNat, dif_pos hvalid]
  exact hbyte

/-- Safe characters are ASCII. -/
theorem toNat_lt_of_isSafe {c : Char} (h : isSafe c = true) : c.toNat < 128 := by
  rw [isSafe, Bool.or_eq_true] at h
  rcases h with halphanum | hsign
  · have hranges : (decide (c.val ≥ 65 ∧ c.val ≤ 90) || (c.val ≥ 97 && c.val ≤ 122)
        || (c.val ≥ 48 && c.val ≤ 57)) = true := halphanum
    have hval : c.toNat = c.val.toNat := rfl
    simp only [Bool.or_eq_true, Bool.and_eq_true, decide_eq_true_eq, ge_iff_le,
      UInt32.le_iff_toNat_le, UInt32.reduceToNat] at hranges
    omega
  · have hall : "@%+=:,./_-".toList.all (·.toNat < 128) = true := by decide
    exact of_decide_eq_true (List.all_eq_true.mp hall c (List.contains_iff_mem.mp hsign))

/-- Where each character is written as itself, so is the text. -/
theorem flatMap_eq_self {f : Char → List Char} {cs : List Char} (h : ∀ c ∈ cs, f c = [c]) :
    cs.flatMap f = cs := by
  induction cs with
  | nil => rfl
  | cons c cs ih =>
    rw [List.flatMap_cons, h c List.mem_cons_self, ih fun d hd => h d (List.mem_cons_of_mem c hd)]
    rfl

/-- A text of ASCII is its own bytes. -/
theorem ofText_of_ascii {s : String} (h : s.toList.all (·.toNat < 128) = true) :
    Bytes.ofText s = bytes s := by
  rw [ofText_eq_flatMap, bytes]
  exact flatMap_eq_self fun c hc =>
    encoded_of_ascii (of_decide_eq_true (List.all_eq_true.mp h c hc))

/-! ## Quoting -/

/-- The bytes of a character are safe exactly if it is. -/
theorem all_isSafe_encoded (c : Char) : (encoded c).all isSafe = isSafe c := by
  by_cases hc : c.toNat < 128
  · rw [encoded_of_ascii hc, List.all_cons, List.all_nil, Bool.and_true]
  · obtain ⟨d, ds, hd⟩ := List.exists_cons_of_ne_nil (encoded_ne_nil c)
    have hunsafe (c : Char) (h : 128 ≤ c.toNat) : isSafe c = false :=
      Bool.eq_false_iff.mpr fun hsafe => Nat.not_lt.mpr h (toNat_lt_of_isSafe hsafe)
    have hd' : 128 ≤ d.toNat :=
      le_of_mem_encoded (Nat.le_of_not_lt hc) (hd ▸ List.mem_cons_self)
    rw [hd, List.all_cons, hunsafe d hd', hunsafe c (Nat.le_of_not_lt hc), Bool.false_and]

/-- It is the same to quote a character and encode it or the other way round. -/
theorem flatMap_quoteChar_encoded (c : Char) :
    (encoded c).flatMap quoteChar = (quoteChar c).flatMap encoded := by
  by_cases hc : c.toNat < 128
  · have hquote : (quoteChar c).all (·.toNat < 128) = true := by
      rw [quoteChar]
      split
      · decide
      · rw [List.all_cons, List.all_nil, Bool.and_true]
        exact decide_eq_true hc
    rw [encoded_of_ascii hc, List.flatMap_singleton, flatMap_eq_self fun d hd =>
      encoded_of_ascii (of_decide_eq_true (List.all_eq_true.mp hquote d hd))]
  · have hplain (d : Char) (hd : 128 ≤ d.toNat) : quoteChar d = [d] := by
      rw [quoteChar, if_neg]
      rintro rfl
      exact absurd hd (by decide)
    rw [hplain c (Nat.le_of_not_lt hc), List.flatMap_singleton,
      flatMap_eq_self fun d hd => hplain d (le_of_mem_encoded (Nat.le_of_not_lt hc) hd)]

/-- The bytes of a quoted text are its bytes, quoted. -/
theorem ofText_quote (s : String) : Bytes.ofText (quote s) = quoteChars (Bytes.ofText s) := by
  rw [ofText_eq_flatMap, ofText_eq_flatMap, quote, String.toList_ofList]
  generalize s.toList = cs
  have hsafe : (cs.flatMap encoded).all isSafe = cs.all isSafe := by
    rw [List.all_flatMap]
    exact congrArg cs.all (funext all_isSafe_encoded)
  have hnil : cs.flatMap encoded = [] ↔ cs = [] := by
    rw [List.flatMap_eq_nil_iff]
    refine ⟨fun h => List.eq_nil_iff_forall_not_mem.mpr fun c hc => encoded_ne_nil c (h c hc), ?_⟩
    rintro rfl c hc
    exact absurd hc List.not_mem_nil
  have hquoted :
      (cs.flatMap quoteChar).flatMap encoded = (cs.flatMap encoded).flatMap quoteChar := by
    rw [List.flatMap_assoc, List.flatMap_assoc]
    exact congrArg cs.flatMap (funext fun c => (flatMap_quoteChar_encoded c).symm)
  rw [quoteChars, quoteChars]
  simp only [hsafe, ne_eq, hnil]
  split_ifs
  · rfl
  · rw [List.flatMap_append, List.flatMap_append, hquoted]
    rfl

end JobLauncher.Shell
