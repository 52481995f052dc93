import ThrevoActions.Json.Loads

/-!
# Parsing what was printed

`json.loads` reads a printed document back in its sorted form. The scanners are taken one at a time,
each on a printed token followed by anything that cannot continue it; the parser follows by
induction on the document.

Nothing here depends on the order of the keys in a text: a printed dictionary is a list of printed
entries, and its keys are distinct.
-/

namespace ThrevoActions

namespace Json

open JsonValue

/-! ## Characters and strings -/

theorem ofString_ofList (chars : List Char) :
    PyStr.ofString (String.ofList chars) =
      chars.map fun c ↦ ⟨c.toNat, Char.toNat_lt_codePoints c⟩ := by
  rw [PyStr.ofString, String.toList_ofList]

theorem scanHex4_control : ∀ n < 0x20,
    scanHex4 ((hex4 n).map fun c ↦ ⟨c.toNat, Char.toNat_lt_codePoints c⟩) = some (n, []) := by
  decide

theorem scanHex4_hex4 {n : ℕ} (h : n < 0x20) (rest : PyStr) :
    scanHex4 (PyStr.ofString (String.ofList (hex4 n)) ++ rest) = some (n, rest) := by
  have hscan := scanHex4_control n h
  rw [ofString_ofList]
  simp only [hex4, List.map_cons, List.map_nil, List.cons_append, List.nil_append, scanHex4,
    Option.bind_eq_bind, Option.bind_eq_some_iff, Option.pure_def, Option.some.injEq,
    Prod.mk.injEq, and_true] at hscan ⊢
  exact hscan

/-- **A printed character is scanned.** -/
theorem scanChar_escapeChar (c : CodePoint) (rest : PyStr) :
    scanChar (escapeChar c ++ rest) = some (c, rest) := by
  have hval : ∀ {n : ℕ} {d : CodePoint}, c.val = n → d.val = n → d = c :=
    fun hc hd ↦ Fin.ext (hd.trans hc.symm)
  rw [escapeChar]
  split_ifs with hquote hbackslash hnewline hreturn htab hbackspace hfeed hcontrol
  · rw [← hval (d := 0x22) hquote rfl]; rfl
  · rw [← hval (d := 0x5c) hbackslash rfl]; rfl
  · rw [← hval (d := 0x0a) hnewline rfl]; rfl
  · rw [← hval (d := 0x0d) hreturn rfl]; rfl
  · rw [← hval (d := 0x09) htab rfl]; rfl
  · rw [← hval (d := 0x08) hbackspace rfl]; rfl
  · rw [← hval (d := 0x0c) hfeed rfl]; rfl
  · have htext : PyStr.ofString (String.ofList ('\\' :: 'u' :: hex4 c.val)) =
        0x5c :: 0x75 :: PyStr.ofString (String.ofList (hex4 c.val)) := by
      rw [ofString_ofList, ofString_ofList]
      rfl
    have hscan := scanHex4_hex4 hcontrol rest
    rw [htext, List.cons_append, List.cons_append, scanChar, if_pos (by decide), scanEscape,
      if_pos (by decide), hscan, Option.bind_eq_bind, Option.bind_some]
    dsimp only
    rw [if_neg (by omega), codePoint?_val]
    rfl
  · rw [List.singleton_append, scanChar, if_neg hbackslash, if_neg hcontrol]

theorem escapeChar_head (c : CodePoint) :
    ∃ d t, escapeChar c = d :: t ∧ d.val ≠ 0x22 := by
  rw [escapeChar]
  split_ifs with hquote
  all_goals first
    | exact ⟨c, [], rfl, hquote⟩
    | exact ⟨_, _, rfl, by decide⟩
    | exact ⟨_, _, ofString_ofList _, by decide⟩

theorem scanStringUpto_escaped (s : PyStr) (rest : PyStr) {fuel : ℕ} (h : s.length < fuel) :
    scanStringUpto fuel (s.flatMap escapeChar ++ 0x22 :: rest) = some (s, rest) := by
  induction s generalizing fuel with
  | nil =>
    obtain ⟨fuel, rfl⟩ : ∃ fuel', fuel = fuel' + 1 := ⟨fuel - 1, by simp at h; omega⟩
    rw [List.flatMap_nil, List.nil_append, scanStringUpto, if_pos (by decide)]
  | cons c s ih =>
    rw [List.length_cons] at h
    obtain ⟨fuel, rfl⟩ : ∃ fuel', fuel = fuel' + 1 := ⟨fuel - 1, by omega⟩
    obtain ⟨d, t, hhead, hquote⟩ := escapeChar_head c
    have hscan := scanChar_escapeChar c (s.flatMap escapeChar ++ 0x22 :: rest)
    rw [hhead, List.cons_append] at hscan
    rw [List.flatMap_cons, hhead, List.append_assoc, List.cons_append, scanStringUpto,
      if_neg hquote, hscan, Option.bind_eq_bind, Option.bind_some]
    dsimp only
    rw [ih (by omega)]
    rfl

theorem length_le_flatMap_escapeChar (s : PyStr) : s.length ≤ (s.flatMap escapeChar).length := by
  induction s with
  | nil => exact le_rfl
  | cons c s ih =>
    obtain ⟨d, t, hhead, -⟩ := escapeChar_head c
    rw [List.flatMap_cons, hhead, List.length_append, List.length_cons, List.length_cons]
    omega

/-- **A printed string is scanned**, after its opening quote. -/
theorem scanString_escaped (s : PyStr) (rest : PyStr) :
    scanString (s.flatMap escapeChar ++ 0x22 :: rest) = some (s, rest) := by
  refine scanStringUpto_escaped s rest ?_
  have hlength := length_le_flatMap_escapeChar s
  rw [List.length_append, List.length_cons]
  omega

theorem dumpsStr_append (s rest : PyStr) :
    dumpsStr s ++ rest = 0x22 :: (s.flatMap escapeChar ++ 0x22 :: rest) := by
  rw [dumpsStr, List.append_assoc, List.append_assoc]
  rfl

/-! ## Numbers -/

/-- A number does not go on in the text. -/
def Follows : PyStr → Prop
  | [] => True
  | c :: _ => isDigit c = false ∧ c.val ≠ 0x2e ∧ c.val ≠ 0x65 ∧ c.val ≠ 0x45

theorem Follows.takeWhile {rest : PyStr} (h : Follows rest) : rest.takeWhile isDigit = [] := by
  cases rest with
  | nil => rfl
  | cons c t => rw [List.takeWhile_cons, h.1]; rfl

theorem Follows.dropWhile {rest : PyStr} (h : Follows rest) : rest.dropWhile isDigit = rest := by
  cases rest with
  | nil => rfl
  | cons c t => rw [List.dropWhile_cons, h.1]; rfl

theorem Follows.scanFraction {rest : PyStr} (h : Follows rest) : scanFraction rest = ([], rest) := by
  cases rest with
  | nil => rfl
  | cons c t => rw [Json.scanFraction, if_neg fun hdot ↦ h.2.1 hdot.1]

theorem Follows.scanExponent {rest : PyStr} (h : Follows rest) : scanExponent rest = ([], rest) := by
  cases rest with
  | nil => rfl
  | cons c t => rw [Json.scanExponent, if_neg fun he ↦ he.1.elim h.2.2.1 h.2.2.2]

/-- The decimal digits of a number. -/
def decimal (n : ℕ) : PyStr := PyStr.ofString (String.ofList (Nat.toDigits 10 n))

theorem decimal_eq_map (n : ℕ) : decimal n =
    (Nat.toDigits 10 n).map fun c ↦ ⟨c.toNat, Char.toNat_lt_codePoints c⟩ := ofString_ofList _

theorem isDigit_of_mem_decimal {n : ℕ} {c : CodePoint} (h : c ∈ decimal n) :
    isDigit c = true := by
  rw [decimal_eq_map] at h
  obtain ⟨d, hd, rfl⟩ := List.mem_map.mp h
  have hdigit := Nat.isDigit_of_mem_toDigits (by omega) le_rfl hd
  rw [Char.isDigit, Bool.and_eq_true, decide_eq_true_eq, decide_eq_true_eq] at hdigit
  exact decide_eq_true ⟨hdigit.1, hdigit.2⟩

theorem digitsValue_decimal (n : ℕ) : digitsValue (decimal n) = n := by
  rw [digitsValue, decimal_eq_map, List.foldl_map]
  exact Nat.ofDigitChars_ten_toDigits

theorem length_decimal (n : ℕ) : (decimal n).length = (Nat.toDigits 10 n).length := by
  rw [decimal_eq_map, List.length_map]

/-- No positive number is printed with a leading zero. -/
theorem head_toDigits {n : ℕ} (h : 0 < n) : (Nat.toDigits 10 n).head? ≠ some '0' := by
  induction n using Nat.strong_induction_on with
  | _ n ih =>
    by_cases hsmall : n < 10
    · have hdigits : ∀ n < 10, 0 < n → [Nat.digitChar n].head? ≠ some '0' := by decide
      rw [Nat.toDigits_of_lt_base hsmall]
      exact hdigits n hsmall h
    · have hfront := ih (n / 10) (by omega) (by omega)
      rw [Nat.toDigits_of_base_le (by omega) (by omega)]
      cases htext : Nat.toDigits 10 (n / 10) with
      | nil => exact absurd htext Nat.toDigits_ne_nil
      | cons c t => rwa [htext] at hfront

theorem decimal_cases (n : ℕ) :
    decimal n = [0x30] ∨ ∃ c t, decimal n = c :: t ∧ c.val ≠ 0x30 := by
  by_cases hzero : n = 0
  · left
    rw [hzero, decimal_eq_map, Nat.toDigits_zero]
    rfl
  · right
    have hhead := head_toDigits (Nat.pos_of_ne_zero hzero)
    rw [decimal_eq_map]
    cases htext : Nat.toDigits 10 n with
    | nil => exact absurd htext Nat.toDigits_ne_nil
    | cons c t =>
      refine ⟨_, _, rfl, fun hval ↦ hhead ?_⟩
      rw [htext, List.head?_cons]
      exact congrArg some (Char.toNat_inj.mp hval)

theorem decimal_head (n : ℕ) : ∃ c t, decimal n = c :: t ∧ isDigit c = true := by
  cases htext : decimal n with
  | nil =>
    rw [decimal_eq_map, List.map_eq_nil_iff] at htext
    exact absurd htext Nat.toDigits_ne_nil
  | cons c t => exact ⟨c, t, rfl, isDigit_of_mem_decimal (htext ▸ List.mem_cons_self)⟩

/-- The integer part of a printed number. -/
theorem scanInteger_decimal (n : ℕ) {rest : PyStr} (h : Follows rest) :
    scanInteger (decimal n ++ rest) = some (decimal n, rest) := by
  rcases decimal_cases n with hzero | ⟨c, t, htext, hne⟩
  · rw [hzero, List.singleton_append, scanInteger, if_pos (by decide)]
  · have hall : ∀ d ∈ c :: t, isDigit d = true := fun d hd ↦
      isDigit_of_mem_decimal (htext ▸ hd)
    rw [htext, List.cons_append, scanInteger, if_neg hne, if_pos (hall c List.mem_cons_self),
      ← List.cons_append, List.takeWhile_append_of_pos hall, List.dropWhile_append_of_pos hall,
      h.takeWhile, h.dropWhile, List.append_nil]

section Values

variable [PythonFloat]

theorem scanNumber_of_scanInteger {s digits rest : PyStr} (h : Follows rest)
    (hscan : scanInteger (scanMinus s).2 = some (digits, rest))
    (hlimit : digits.length ≤ maxStrDigits) :
    scanNumber s =
      some (.int (if (scanMinus s).1 = [] then digitsValue digits else -digitsValue digits), rest) := by
  rw [scanNumber, hscan, Option.bind_eq_bind, Option.bind_some]
  dsimp only
  rw [h.scanFraction]
  dsimp only
  rw [h.scanExponent, if_pos ⟨rfl, rfl⟩, if_pos hlimit]
  rfl

/-- **A printed integer is scanned.** -/
theorem scanNumber_dumpsInt {n : ℤ} (hlimit : printable (.int n) = true) {rest : PyStr}
    (h : Follows rest) : scanNumber (dumpsInt n ++ rest) = some (.int n, rest) := by
  have hlength : (decimal n.natAbs).length ≤ maxStrDigits := by
    rw [length_decimal]
    exact of_decide_eq_true hlimit
  have hscan := scanInteger_decimal n.natAbs h
  rw [dumpsInt]
  split_ifs with hneg
  · have hminus : scanMinus (PyStr.ofString "-" ++ decimal n.natAbs ++ rest) =
        ([0x2d], decimal n.natAbs ++ rest) := by
      rw [List.append_assoc]
      rfl
    have hnumber := scanNumber_of_scanInteger (s := PyStr.ofString "-" ++ decimal n.natAbs ++ rest)
      h (by rw [hminus]; exact hscan) hlength
    rw [hminus, if_neg (List.cons_ne_nil _ _), digitsValue_decimal] at hnumber
    have hvalue : -(n.natAbs : ℤ) = n := by omega
    rwa [hvalue] at hnumber
  · have hminus : scanMinus (decimal n.natAbs ++ rest) = ([], decimal n.natAbs ++ rest) := by
      obtain ⟨c, t, htext, hdigit⟩ := decimal_head n.natAbs
      have hne : c.val ≠ 0x2d := by
        have hrange := of_decide_eq_true hdigit
        omega
      rw [htext, List.cons_append, scanMinus, if_neg hne]
    have hnumber := scanNumber_of_scanInteger (s := decimal n.natAbs ++ rest)
      h (by rw [hminus]; exact hscan) hlength
    rw [hminus, if_pos rfl, digitsValue_decimal] at hnumber
    have hvalue : (n.natAbs : ℤ) = n := by omega
    rwa [hvalue] at hnumber

/-! ## Values -/

omit [PythonFloat] in
theorem scanConstant_eq_none {s : PyStr}
    (h : ∀ constant ∈ constants, s.dropPrefix? constant.1 = none) : scanConstant s = none := by
  rw [scanConstant, List.findSome?_eq_none_iff]
  intro constant hconstant
  rw [h constant hconstant]
  rfl

omit [PythonFloat] in
theorem dropPrefix?_of_head {c d : CodePoint} {s text : PyStr} (hhead : text.head? = some d)
    (hne : c ≠ d) : (c :: s).dropPrefix? text = none := by
  cases text with
  | nil => cases hhead
  | cons e text =>
    rw [List.head?_cons, Option.some.injEq] at hhead
    rw [List.dropPrefix?, if_neg]
    rwa [hhead, beq_iff_eq]

omit [PythonFloat] in
theorem ne_of_isDigit {c d : CodePoint} (hc : isDigit c = true) (hd : isDigit d = false) :
    c ≠ d := by
  rintro rfl
  rw [hc] at hd
  cases hd

omit [PythonFloat] in
/-- No constant starts with a digit. -/
theorem scanConstant_of_digit {c : CodePoint} (hdigit : isDigit c = true) (s : PyStr) :
    scanConstant (c :: s) = none := by
  refine scanConstant_eq_none ?_
  rw [constants]
  simp only [List.forall_mem_cons]
  refine ⟨?_, ?_, ?_, ?_, ?_, ?_, List.forall_mem_nil _⟩
  · exact dropPrefix?_of_head (d := 0x6e) rfl (ne_of_isDigit hdigit rfl)
  · exact dropPrefix?_of_head (d := 0x74) rfl (ne_of_isDigit hdigit rfl)
  · exact dropPrefix?_of_head (d := 0x66) rfl (ne_of_isDigit hdigit rfl)
  · exact dropPrefix?_of_head (d := 0x4e) rfl (ne_of_isDigit hdigit rfl)
  · exact dropPrefix?_of_head (d := 0x49) rfl (ne_of_isDigit hdigit rfl)
  · exact dropPrefix?_of_head (d := 0x2d) rfl (ne_of_isDigit hdigit rfl)

omit [PythonFloat] in
/-- No constant goes on with a digit after a minus. -/
theorem scanConstant_of_minus_digit {c : CodePoint} (hdigit : isDigit c = true) (s : PyStr) :
    scanConstant (0x2d :: c :: s) = none := by
  have hinfinity : (PyStr.ofString "-Infinity") = 0x2d :: PyStr.ofString "Infinity" := rfl
  refine scanConstant_eq_none ?_
  rw [constants]
  simp only [List.forall_mem_cons]
  refine ⟨?_, ?_, ?_, ?_, ?_, ?_, List.forall_mem_nil _⟩
  · exact dropPrefix?_of_head (d := 0x6e) rfl (by decide)
  · exact dropPrefix?_of_head (d := 0x74) rfl (by decide)
  · exact dropPrefix?_of_head (d := 0x66) rfl (by decide)
  · exact dropPrefix?_of_head (d := 0x4e) rfl (by decide)
  · exact dropPrefix?_of_head (d := 0x49) rfl (by decide)
  · rw [hinfinity, List.dropPrefix?, if_pos (beq_self_eq_true _)]
    exact dropPrefix?_of_head (d := 0x49) rfl (ne_of_isDigit hdigit rfl)

omit [PythonFloat] in
theorem dropPrefix?_append (text rest : PyStr) : (text ++ rest).dropPrefix? text = some rest := by
  induction text with
  | nil => rw [List.nil_append, List.dropPrefix?]
  | cons c text ih => rw [List.cons_append, List.dropPrefix?, if_pos (beq_self_eq_true c), ih]

omit [PythonFloat] in
/-- **A printed constant is scanned**, when none of the constants before it is found there. -/
theorem scanConstant_append (front : List (PyStr × JsonValue)) {back : List (PyStr × JsonValue)}
    {text : PyStr} {v : JsonValue}
    (hconstants : constants = front ++ (text, v) :: back) {rest : PyStr}
    (hnone : ∀ constant ∈ front, (text ++ rest).dropPrefix? constant.1 = none) :
    scanConstant (text ++ rest) = some (v, rest) := by
  have hfront : front.findSome?
      (fun constant ↦ ((text ++ rest).dropPrefix? constant.1).map (constant.2, ·)) = none := by
    rw [List.findSome?_eq_none_iff]
    intro constant hconstant
    rw [hnone constant hconstant]
    rfl
  rw [scanConstant, hconstants, List.findSome?_append, hfront, Option.none_or, List.findSome?_cons,
    dropPrefix?_append]
  rfl

omit [PythonFloat] in
theorem scanConstant_null (rest : PyStr) :
    scanConstant (dumps .null ++ rest) = some (.null, rest) :=
  scanConstant_append [] rfl (List.forall_mem_nil _)

omit [PythonFloat] in
theorem scanConstant_bool (b : Bool) (rest : PyStr) :
    scanConstant (dumps (.bool b) ++ rest) = some (.bool b, rest) := by
  cases b with
  | true =>
    refine scanConstant_append (constants.take 1) rfl ?_
    rw [constants]
    simp only [List.take_succ_cons, List.take_zero, List.forall_mem_cons]
    exact ⟨dropPrefix?_of_head (d := 0x6e) rfl (by decide), List.forall_mem_nil _⟩
  | false =>
    refine scanConstant_append (constants.take 2) rfl ?_
    rw [constants]
    simp only [List.take_succ_cons, List.take_zero, List.forall_mem_cons]
    exact ⟨dropPrefix?_of_head (d := 0x6e) rfl (by decide),
      dropPrefix?_of_head (d := 0x74) rfl (by decide), List.forall_mem_nil _⟩

/-- How a value begins in a text: neither with a space nor with a closing bracket or brace. -/
def Begins (text : PyStr) : Prop :=
  ∃ c s, text = c :: s ∧ isSpace c = false ∧ c.val ≠ 0x5d ∧ c.val ≠ 0x7d

omit [PythonFloat] in
theorem begins_of_digit {c : CodePoint} (hdigit : isDigit c = true) (s : PyStr) :
    Begins (c :: s) := by
  have hrange := of_decide_eq_true hdigit
  refine ⟨c, s, rfl, decide_eq_false ?_, ?_, ?_⟩ <;> omega

omit [PythonFloat] in
theorem dumps_begins {v : JsonValue} (hfloat : floatFree v = true) : Begins (dumps v) := by
  cases v with
  | null => exact ⟨_, _, rfl, rfl, by decide, by decide⟩
  | bool b => cases b <;> exact ⟨_, _, rfl, rfl, by decide, by decide⟩
  | int n =>
    obtain ⟨c, t, htext, hdigit⟩ := decimal_head n.natAbs
    rw [dumps, dumpsInt]
    split_ifs
    · exact ⟨0x2d, decimal n.natAbs, rfl, rfl, by decide, by decide⟩
    · show Begins (decimal n.natAbs)
      rw [htext]
      exact begins_of_digit hdigit t
  | float => cases hfloat
  | str s => exact ⟨0x22, _, rfl, rfl, by decide, by decide⟩
  | list items => exact ⟨0x5b, _, rfl, rfl, by decide, by decide⟩
  | dict entries => exact ⟨0x7b, _, rfl, rfl, by decide, by decide⟩

omit [PythonFloat] in
theorem Begins.skipSpaces {text : PyStr} (h : Begins text) (rest : PyStr) :
    skipSpaces (text ++ rest) = text ++ rest := by
  obtain ⟨c, s, rfl, hspace, -⟩ := h
  rw [List.cons_append, Json.skipSpaces, List.dropWhile_cons, hspace]
  rfl

omit [PythonFloat] in
theorem Begins.append {text : PyStr} (h : Begins text) (rest : PyStr) : Begins (text ++ rest) := by
  obtain ⟨c, s, rfl, hspace, hend⟩ := h
  exact ⟨c, s ++ rest, rfl, hspace, hend⟩

omit [PythonFloat] in
theorem Begins.length_pos {text : PyStr} (h : Begins text) : 0 < text.length := by
  obtain ⟨c, s, rfl, -⟩ := h
  exact Nat.succ_pos _

/-- The parser reads the text as the value, whatever follows it, with fuel for its length. -/
def ReadsAs (text : PyStr) (v : JsonValue) : Prop :=
  ∀ fuel rest, text.length ≤ fuel → Follows rest →
    parseValue fuel (text ++ rest) = some (v, rest)

theorem readsAs_constant {v : JsonValue} {c : CodePoint} {s : PyStr} (htext : dumps v = c :: s)
    (hc : c.val ≠ 0x22 ∧ c.val ≠ 0x7b ∧ c.val ≠ 0x5b)
    (hscan : ∀ rest, scanConstant (dumps v ++ rest) = some (v, rest)) : ReadsAs (dumps v) v := by
  intro fuel rest hfuel _
  have hconstant := hscan rest
  rw [htext, List.length_cons] at hfuel
  obtain ⟨fuel, rfl⟩ : ∃ fuel', fuel = fuel' + 1 := ⟨fuel - 1, by omega⟩
  rw [htext, List.cons_append] at hconstant ⊢
  rw [parseValue, if_neg hc.1, if_neg hc.2.1, if_neg hc.2.2, hconstant, Option.some_or]

theorem readsAs_null : ReadsAs (dumps .null) .null :=
  readsAs_constant (c := 0x6e) rfl (by decide) scanConstant_null

theorem readsAs_bool (b : Bool) : ReadsAs (dumps (.bool b)) (.bool b) := by
  cases b with
  | false => exact readsAs_constant (c := 0x66) rfl (by decide) (scanConstant_bool false)
  | true => exact readsAs_constant (c := 0x74) rfl (by decide) (scanConstant_bool true)

theorem readsAs_int {n : ℤ} (hlimit : printable (.int n) = true) :
    ReadsAs (dumps (.int n)) (.int n) := by
  intro fuel rest hfuel hfollows
  have hnumber := scanNumber_dumpsInt hlimit hfollows
  have hpos := (dumps_begins (v := .int n) rfl).length_pos
  obtain ⟨fuel, rfl⟩ : ∃ fuel', fuel = fuel' + 1 := ⟨fuel - 1, by omega⟩
  obtain ⟨c, t, htext, hdigit⟩ := decimal_head n.natAbs
  have hrange := of_decide_eq_true hdigit
  rw [dumps]
  rw [dumpsInt] at hnumber ⊢
  split_ifs at hnumber ⊢ with hneg
  · have hminus : PyStr.ofString "-" ++ PyStr.ofString (String.ofList (Nat.toDigits 10 n.natAbs)) ++
        rest = 0x2d :: c :: (t ++ rest) := by
      show 0x2d :: (decimal n.natAbs ++ rest) = _
      rw [htext]
      rfl
    rw [hminus] at hnumber ⊢
    rw [parseValue, if_neg (by decide), if_neg (by decide), if_neg (by decide),
      scanConstant_of_minus_digit hdigit, Option.none_or, hnumber]
  · have hdigits : PyStr.ofString (String.ofList (Nat.toDigits 10 n.natAbs)) ++ rest =
        c :: (t ++ rest) := by
      show decimal n.natAbs ++ rest = _
      rw [htext]
      rfl
    rw [hdigits] at hnumber ⊢
    rw [parseValue, if_neg (by omega), if_neg (by omega), if_neg (by omega),
      scanConstant_of_digit hdigit, Option.none_or, hnumber]

theorem readsAs_str (s : PyStr) : ReadsAs (dumps (.str s)) (.str s) := by
  intro fuel rest hfuel _
  have hpos := (dumps_begins (v := .str s) rfl).length_pos
  obtain ⟨fuel, rfl⟩ : ∃ fuel', fuel = fuel' + 1 := ⟨fuel - 1, by omega⟩
  rw [dumps, dumpsStr_append, parseValue, if_pos (by decide), scanString_escaped]
  rfl

/-! ### Lists and dictionaries -/

omit [PythonFloat] in
theorem joinStr_cons_cons (separator part other : PyStr) (parts : List PyStr) :
    joinStr separator (part :: other :: parts) =
      part ++ separator ++ joinStr separator (other :: parts) := by
  rw [joinStr]
  exact fun hnil ↦ absurd hnil (List.cons_ne_nil _ _)

omit [PythonFloat] in
theorem follows_comma (rest : PyStr) : Follows (0x2c :: rest) :=
  ⟨rfl, by decide, by decide, by decide⟩

omit [PythonFloat] in
theorem follows_bracket (rest : PyStr) : Follows (0x5d :: rest) :=
  ⟨rfl, by decide, by decide, by decide⟩

omit [PythonFloat] in
theorem follows_brace (rest : PyStr) : Follows (0x7d :: rest) :=
  ⟨rfl, by decide, by decide, by decide⟩

omit [PythonFloat] in
theorem joinStr_begins {part : PyStr} (h : Begins part) (separator : PyStr) (parts : List PyStr) :
    Begins (joinStr separator (part :: parts)) := by
  cases parts with
  | nil => exact h
  | cons other parts =>
    rw [joinStr_cons_cons, List.append_assoc]
    exact h.append _

omit [PythonFloat] in
theorem skipSpaces_comma (rest : PyStr) : skipSpaces (0x2c :: rest) = 0x2c :: rest := rfl

omit [PythonFloat] in
theorem skipSpaces_colon (rest : PyStr) : skipSpaces (0x3a :: rest) = 0x3a :: rest := rfl

omit [PythonFloat] in
theorem joinStr_comma_append (part other : PyStr) (parts : List PyStr) (rest : PyStr) :
    joinStr (PyStr.ofString ",") (part :: other :: parts) ++ rest =
      part ++ 0x2c :: (joinStr (PyStr.ofString ",") (other :: parts) ++ rest) := by
  rw [joinStr_cons_cons, List.append_assoc, List.append_assoc]
  rfl

/-- **Items are parsed**, each with its text, up to the closing bracket. -/
theorem parseItems_join {item : PyStr × JsonValue} {items : List (PyStr × JsonValue)}
    (hbegins : ∀ p ∈ item :: items, Begins p.1) (hreads : ∀ p ∈ item :: items, ReadsAs p.1 p.2)
    (fuel : ℕ) (rest : PyStr)
    (hfuel : (joinStr (PyStr.ofString ",") ((item :: items).map Prod.fst)).length + 1 ≤ fuel) :
    parseItems fuel (joinStr (PyStr.ofString ",") ((item :: items).map Prod.fst) ++ 0x5d :: rest) =
      some ((item :: items).map Prod.snd, rest) := by
  induction items generalizing item fuel with
  | nil =>
    obtain ⟨fuel, rfl⟩ : ∃ fuel', fuel = fuel' + 1 := ⟨fuel - 1, by omega⟩
    have hitem := hreads item List.mem_cons_self fuel (0x5d :: rest) (by
      simpa [joinStr] using hfuel) (follows_bracket rest)
    rw [List.map_cons, List.map_nil, joinStr, parseItems, hitem]
    rfl
  | cons other items ih =>
    have hlength := (hbegins item List.mem_cons_self).length_pos
    have hother := hbegins other (List.mem_cons_of_mem _ List.mem_cons_self)
    rw [List.map_cons, List.map_cons] at hfuel ⊢
    rw [joinStr_cons_cons, List.length_append, List.length_append] at hfuel
    obtain ⟨fuel, rfl⟩ : ∃ fuel', fuel = fuel' + 1 := ⟨fuel - 1, by omega⟩
    have hitem := hreads item List.mem_cons_self fuel
      (0x2c :: (joinStr (PyStr.ofString ",") (other.1 :: items.map Prod.fst) ++ 0x5d :: rest))
      (by omega) (follows_comma _)
    have hrest := ih (fun p hp ↦ hbegins p (List.mem_cons_of_mem _ hp))
      (fun p hp ↦ hreads p (List.mem_cons_of_mem _ hp)) fuel (by
        rw [List.map_cons]
        omega)
    rw [List.map_cons] at hrest
    rw [joinStr_comma_append, parseItems, hitem, Option.bind_some]
    dsimp only
    rw [skipSpaces_comma]
    dsimp only
    rw [if_neg (by decide), if_pos (by decide), (joinStr_begins hother _ _).skipSpaces, hrest]
    rfl

/-- The text of an entry with the given text of its value. -/
def entryText (entry : PyStr × PyStr) : PyStr :=
  dumpsStr entry.1 ++ PyStr.ofString ":" ++ entry.2

omit [PythonFloat] in
theorem entryText_append (entry : PyStr × PyStr) (rest : PyStr) :
    entryText entry ++ rest =
      0x22 :: (entry.1.flatMap escapeChar ++ 0x22 :: 0x3a :: (entry.2 ++ rest)) := by
  rw [entryText, List.append_assoc, List.append_assoc, dumpsStr_append]
  rfl

omit [PythonFloat] in
theorem entryText_begins (entry : PyStr × PyStr) : Begins (entryText entry) := by
  rw [← List.append_nil (entryText entry), entryText_append]
  exact ⟨0x22, _, rfl, rfl, by decide, by decide⟩

omit [PythonFloat] in
theorem length_entryText (entry : PyStr × PyStr) : entry.2.length < (entryText entry).length := by
  rw [entryText, List.length_append, List.length_append]
  have hcolon : (PyStr.ofString ":").length = 1 := rfl
  omega

/-- An entry, by the text and the value of its value. -/
abbrev ReadEntry := PyStr × PyStr × JsonValue

def ReadEntry.text (entry : ReadEntry) : PyStr := entryText (entry.1, entry.2.1)

def ReadEntry.entry (entry : ReadEntry) : PyStr × JsonValue := (entry.1, entry.2.2)

/-- **Entries are parsed**, each with its text, up to the closing brace. -/
theorem parseEntries_join {entry : ReadEntry} {entries : List ReadEntry}
    (hbegins : ∀ e ∈ entry :: entries, Begins e.2.1)
    (hreads : ∀ e ∈ entry :: entries, ReadsAs e.2.1 e.2.2) (fuel : ℕ) (rest : PyStr)
    (hfuel : (joinStr (PyStr.ofString ",") ((entry :: entries).map ReadEntry.text)).length + 1 ≤
      fuel) :
    parseEntries fuel
        (joinStr (PyStr.ofString ",") ((entry :: entries).map ReadEntry.text) ++ 0x7d :: rest) =
      some ((entry :: entries).map ReadEntry.entry, rest) := by
  induction entries generalizing entry fuel with
  | nil =>
    have hlength : entry.2.1.length < (entryText (entry.1, entry.2.1)).length :=
      length_entryText (entry.1, entry.2.1)
    rw [List.map_cons, List.map_nil, joinStr, ReadEntry.text] at hfuel ⊢
    obtain ⟨fuel, rfl⟩ : ∃ fuel', fuel = fuel' + 1 := ⟨fuel - 1, by omega⟩
    have hvalue := hreads entry List.mem_cons_self fuel (0x7d :: rest) (by omega)
      (follows_brace rest)
    rw [entryText_append, parseEntries, if_neg (by decide), scanString_escaped, Option.bind_some]
    dsimp only
    rw [skipSpaces_colon]
    dsimp only
    rw [if_neg (by decide), (hbegins entry List.mem_cons_self).skipSpaces, hvalue]
    rfl
  | cons other entries ih =>
    have hlength : entry.2.1.length < (entryText (entry.1, entry.2.1)).length :=
      length_entryText (entry.1, entry.2.1)
    rw [List.map_cons, List.map_cons] at hfuel ⊢
    rw [joinStr_cons_cons, List.length_append, List.length_append, ReadEntry.text] at hfuel
    obtain ⟨fuel, rfl⟩ : ∃ fuel', fuel = fuel' + 1 := ⟨fuel - 1, by omega⟩
    have hvalue := hreads entry List.mem_cons_self fuel
      (0x2c :: (joinStr (PyStr.ofString ",") (other.text :: entries.map ReadEntry.text) ++
        0x7d :: rest)) (by omega) (follows_comma _)
    have hrest := ih (fun e he ↦ hbegins e (List.mem_cons_of_mem _ he))
      (fun e he ↦ hreads e (List.mem_cons_of_mem _ he)) fuel (by
        rw [List.map_cons]
        omega)
    rw [List.map_cons] at hrest
    have hskip := (joinStr_begins (entryText_begins (other.1, other.2.1)) (PyStr.ofString ",")
      (entries.map ReadEntry.text)).skipSpaces (0x7d :: rest)
    rw [← ReadEntry.text] at hskip
    rw [joinStr_comma_append, ReadEntry.text, entryText_append, parseEntries, if_neg (by decide),
      scanString_escaped, Option.bind_some]
    dsimp only
    rw [skipSpaces_colon]
    dsimp only
    rw [if_neg (by decide), (hbegins entry List.mem_cons_self).skipSpaces, hvalue, Option.bind_some]
    dsimp only
    rw [skipSpaces_comma]
    dsimp only
    rw [if_neg (by decide), if_pos (by decide), hskip, hrest]
    rfl

omit [PythonFloat] in
theorem foldl_insertEntry {acc pairs : List (PyStr × JsonValue)}
    (h : ((acc ++ pairs).map Prod.fst).Nodup) : pairs.foldl insertEntry acc = acc ++ pairs := by
  induction pairs generalizing acc with
  | nil => rw [List.foldl_nil, List.append_nil]
  | cons pair pairs ih =>
    have hfresh : pair.1 ∉ acc.map Prod.fst := by
      intro hmem
      rw [List.map_append, List.nodup_append] at h
      exact h.2.2 _ hmem _ List.mem_cons_self rfl
    rw [List.foldl_cons, insertEntry, if_neg hfresh, ih (by rwa [← List.append_cons]),
      ← List.append_cons]

omit [PythonFloat] in
/-- Pairs with distinct keys are the entries of their dictionary. -/
theorem dictOf_of_nodup {pairs : List (PyStr × JsonValue)} (h : (pairs.map Prod.fst).Nodup) :
    dictOf pairs = pairs := foldl_insertEntry h

/-- **A list is read** from the texts of its items. -/
theorem readsAs_list (items : List (PyStr × JsonValue)) (hbegins : ∀ p ∈ items, Begins p.1)
    (hreads : ∀ p ∈ items, ReadsAs p.1 p.2) :
    ReadsAs (PyStr.ofString "[" ++ joinStr (PyStr.ofString ",") (items.map Prod.fst) ++
      PyStr.ofString "]") (.list (items.map Prod.snd)) := by
  intro fuel rest hfuel _
  have htext : PyStr.ofString "[" ++ joinStr (PyStr.ofString ",") (items.map Prod.fst) ++
      PyStr.ofString "]" ++ rest =
        0x5b :: (joinStr (PyStr.ofString ",") (items.map Prod.fst) ++ 0x5d :: rest) := by
    rw [List.append_assoc, List.append_assoc]
    rfl
  have hopen : (PyStr.ofString "[").length = 1 := rfl
  have hclose : (PyStr.ofString "]").length = 1 := rfl
  rw [List.length_append, List.length_append] at hfuel
  obtain ⟨fuel, rfl⟩ : ∃ fuel', fuel = fuel' + 1 := ⟨fuel - 1, by omega⟩
  rw [htext, parseValue, if_neg (by decide), if_neg (by decide), if_pos (by decide)]
  cases items with
  | nil => rfl
  | cons item items =>
    have hjoin := joinStr_begins (hbegins item List.mem_cons_self) (PyStr.ofString ",")
      (items.map Prod.fst)
    have hitems := parseItems_join hbegins hreads fuel rest (by omega)
    rw [← List.map_cons] at hjoin
    rw [hjoin.skipSpaces]
    obtain ⟨c, s, hhead, -, hend, -⟩ := hjoin.append (0x5d :: rest)
    rw [hhead] at hitems ⊢
    dsimp only
    rw [if_neg hend, hitems]
    rfl

/-- **A dictionary is read** from the texts of its entries. -/
theorem readsAs_dict (entries : List ReadEntry) (hkeys : (entries.map Prod.fst).Nodup)
    (hbegins : ∀ e ∈ entries, Begins e.2.1) (hreads : ∀ e ∈ entries, ReadsAs e.2.1 e.2.2) :
    ReadsAs (PyStr.ofString "\x7b" ++ joinStr (PyStr.ofString ",") (entries.map ReadEntry.text) ++
      PyStr.ofString "\x7d") (.dict (entries.map ReadEntry.entry)) := by
  intro fuel rest hfuel _
  have htext : PyStr.ofString "\x7b" ++ joinStr (PyStr.ofString ",") (entries.map ReadEntry.text) ++
      PyStr.ofString "\x7d" ++ rest =
        0x7b :: (joinStr (PyStr.ofString ",") (entries.map ReadEntry.text) ++ 0x7d :: rest) := by
    rw [List.append_assoc, List.append_assoc]
    rfl
  have hopen : (PyStr.ofString "\x7b").length = 1 := rfl
  have hclose : (PyStr.ofString "\x7d").length = 1 := rfl
  rw [List.length_append, List.length_append] at hfuel
  obtain ⟨fuel, rfl⟩ : ∃ fuel', fuel = fuel' + 1 := ⟨fuel - 1, by omega⟩
  rw [htext, parseValue, if_neg (by decide), if_pos (by decide)]
  cases entries with
  | nil => rfl
  | cons entry entries =>
    have hentries := parseEntries_join hbegins hreads fuel rest (by omega)
    have hjoin : Begins (joinStr (PyStr.ofString ",") ((entry :: entries).map ReadEntry.text)) :=
      joinStr_begins (entryText_begins (entry.1, entry.2.1)) _ _
    have hentryKeys : ((entry :: entries).map ReadEntry.entry).map Prod.fst =
        (entry :: entries).map Prod.fst := List.map_map
    rw [hjoin.skipSpaces]
    obtain ⟨c, s, hhead, -, -, hend⟩ := hjoin.append (0x7d :: rest)
    rw [hhead] at hentries ⊢
    dsimp only
    rw [if_neg hend, hentries, Option.map_some, dictOf_of_nodup (hentryKeys ▸ hkeys)]

/-! ### Printed documents -/

theorem parses_list {items : List JsonValue} (hfloat : ∀ item ∈ items, floatFree item = true)
    (hreads : ∀ item ∈ items, ReadsAs (dumps item) (sorted item)) :
    ReadsAs (dumps (.list items)) (sorted (.list items)) := by
  have hlist := readsAs_list (items.map fun item ↦ (dumps item, sorted item))
    (List.forall_mem_map.mpr fun item hitem ↦ dumps_begins (hfloat item hitem))
    (List.forall_mem_map.mpr hreads)
  rw [List.map_map, List.map_map] at hlist
  rw [dumps, dumpsList_eq_map, sorted, sortedList_eq_map]
  exact hlist

omit [PythonFloat] in
theorem dumps_dict (entries : List (PyStr × JsonValue)) :
    dumps (.dict entries) = PyStr.ofString "\x7b" ++
      joinStr (PyStr.ofString ",") ((sortEntries entries).map fun entry ↦
        entryText (entry.1, dumps entry.2)) ++ PyStr.ofString "\x7d" := by
  rw [dumps, sortEntries_dumpsEntries, dumpsEntries_eq_map, List.map_map]
  rfl

theorem parses_dict {entries : List (PyStr × JsonValue)} (hkeys : (entries.map Prod.fst).Nodup)
    (hfloat : ∀ entry ∈ entries, floatFree entry.2 = true)
    (hreads : ∀ entry ∈ entries, ReadsAs (dumps entry.2) (sorted entry.2)) :
    ReadsAs (dumps (.dict entries)) (sorted (.dict entries)) := by
  have hperm := sortEntries_perm entries
  have hmem : ∀ entry ∈ sortEntries entries, entry ∈ entries := fun entry ↦ hperm.mem_iff.mp
  rw [← (hperm.map Prod.fst).nodup_iff] at hkeys
  have hdict := readsAs_dict
    ((sortEntries entries).map fun e ↦ (e.1, dumps e.2, sorted e.2))
    (by rwa [List.map_map])
    (List.forall_mem_map.mpr fun entry hentry ↦ dumps_begins (hfloat entry (hmem entry hentry)))
    (List.forall_mem_map.mpr fun entry hentry ↦ hreads entry (hmem entry hentry))
  rw [List.map_map, List.map_map] at hdict
  rw [dumps_dict, sorted, sortedEntries_eq_map, sortEntries_map]
  exact hdict

/-- **The parser reads every printed document.** -/
theorem parses {v : JsonValue} (hkeyed : keyed v = true) (hfloat : floatFree v = true)
    (hlimit : printable v = true) : ReadsAs (dumps v) (sorted v) := by
  induction v using JsonValue.induction with
  | null => exact readsAs_null
  | bool b => exact readsAs_bool b
  | int n => exact readsAs_int hlimit
  | float => cases hfloat
  | str s => exact readsAs_str s
  | list items ih =>
    simp only [keyed, keyedList_eq_all, floatFree, floatFreeList_eq_all, printable,
      printableList_eq_all, List.all_eq_true] at hkeyed hfloat hlimit
    exact parses_list hfloat fun item hitem ↦
      ih item hitem (hkeyed item hitem) (hfloat item hitem) (hlimit item hitem)
  | dict entries ih =>
    simp only [keyed, keyedEntries_eq_all, floatFree, floatFreeEntries_eq_all, printable,
      printableEntries_eq_all, List.all_eq_true, Bool.and_eq_true, decide_eq_true_eq]
      at hkeyed hfloat hlimit
    exact parses_dict hkeyed.1 hfloat fun entry hentry ↦
      ih entry hentry (hkeyed.2 entry hentry) (hfloat entry hentry) (hlimit entry hentry)

/-- A text that reads as a value, whatever follows, is parsed into it. -/
theorem loadsText_of_readsAs {text : PyStr} {v : JsonValue} (hbegins : Begins text)
    (hreads : ReadsAs text v) : loadsText text = some v := by
  have hskip := hbegins.skipSpaces []
  have hparse := hreads (text.length + 1) [] (Nat.le_succ _) trivial
  rw [List.append_nil] at hskip hparse
  rw [loadsText, hskip, hparse]
  rfl

/-- **A printed document is parsed into its sorted form.** -/
theorem loadsText_dumps {v : JsonValue} (hkeyed : keyed v = true) (hfloat : floatFree v = true)
    (hlimit : printable v = true) : loadsText (dumps v) = some (sorted v) :=
  loadsText_of_readsAs (dumps_begins hfloat) (parses hkeyed hfloat hlimit)

/-! ### Written documents

The same texts with every dictionary in its own order. -/

mutual

/-- The JSON text of a document without floats. -/
def writeJson : JsonValue → PyStr
  | .list items =>
    PyStr.ofString "[" ++ joinStr (PyStr.ofString ",") (writeItems items) ++ PyStr.ofString "]"
  | .dict entries =>
    PyStr.ofString "\x7b" ++ joinStr (PyStr.ofString ",") (writeEntries entries) ++
      PyStr.ofString "\x7d"
  | value => dumps value

def writeItems : List JsonValue → List PyStr
  | [] => []
  | item :: items => writeJson item :: writeItems items

def writeEntries : List (PyStr × JsonValue) → List PyStr
  | [] => []
  | (key, item) :: entries => entryText (key, writeJson item) :: writeEntries entries

end

omit [PythonFloat] in
theorem writeItems_eq_map (items : List JsonValue) : writeItems items = items.map writeJson := by
  induction items with
  | nil => rfl
  | cons item items ih => rw [writeItems, ih, List.map_cons]

omit [PythonFloat] in
theorem writeEntries_eq_map (entries : List (PyStr × JsonValue)) :
    writeEntries entries = entries.map fun entry ↦ entryText (entry.1, writeJson entry.2) := by
  induction entries with
  | nil => rfl
  | cons entry entries ih => rw [writeEntries, ih, List.map_cons]

omit [PythonFloat] in
theorem writeJson_begins {v : JsonValue} (hfloat : floatFree v = true) : Begins (writeJson v) := by
  cases v with
  | list items => exact ⟨0x5b, _, rfl, rfl, by decide, by decide⟩
  | dict entries => exact ⟨0x7b, _, rfl, rfl, by decide, by decide⟩
  | _ => exact dumps_begins hfloat

/-- **The parser reads every written document** as it is. -/
theorem readsAs_writeJson {v : JsonValue} (hkeyed : keyed v = true) (hfloat : floatFree v = true)
    (hlimit : printable v = true) : ReadsAs (writeJson v) v := by
  induction v using JsonValue.induction with
  | null => exact readsAs_null
  | bool b => exact readsAs_bool b
  | int n => exact readsAs_int hlimit
  | float => cases hfloat
  | str s => exact readsAs_str s
  | list items ih =>
    simp only [keyed, keyedList_eq_all, floatFree, floatFreeList_eq_all, printable,
      printableList_eq_all, List.all_eq_true] at hkeyed hfloat hlimit
    have hlist := readsAs_list (items.map fun item ↦ (writeJson item, item))
      (List.forall_mem_map.mpr fun item hitem ↦ writeJson_begins (hfloat item hitem))
      (List.forall_mem_map.mpr fun item hitem ↦
        ih item hitem (hkeyed item hitem) (hfloat item hitem) (hlimit item hitem))
    rw [List.map_map, List.map_map, Function.comp_def, Function.comp_def, List.map_id'] at hlist
    rw [writeJson, writeItems_eq_map]
    exact hlist
  | dict entries ih =>
    simp only [keyed, keyedEntries_eq_all, floatFree, floatFreeEntries_eq_all, printable,
      printableEntries_eq_all, List.all_eq_true, Bool.and_eq_true, decide_eq_true_eq]
      at hkeyed hfloat hlimit
    have hdict := readsAs_dict (entries.map fun e ↦ (e.1, writeJson e.2, e.2))
      (by rw [List.map_map]; exact hkeyed.1)
      (List.forall_mem_map.mpr fun entry hentry ↦ writeJson_begins (hfloat entry hentry))
      (List.forall_mem_map.mpr fun entry hentry ↦ ih entry hentry (hkeyed.2 entry hentry)
        (hfloat entry hentry) (hlimit entry hentry))
    rw [List.map_map, List.map_map] at hdict
    rw [writeJson, writeEntries_eq_map]
    have hentries : entries.map (ReadEntry.entry ∘ fun e ↦ (e.1, writeJson e.2, e.2)) = entries :=
      List.map_id' entries
    rw [hentries] at hdict
    exact hdict

/-- **A written document is parsed into itself.** -/
theorem loadsText_writeJson {v : JsonValue} (hkeyed : keyed v = true) (hfloat : floatFree v = true)
    (hlimit : printable v = true) : loadsText (writeJson v) = some v :=
  loadsText_of_readsAs (writeJson_begins hfloat) (readsAs_writeJson hkeyed hfloat hlimit)

end Values

end Json

end ThrevoActions
