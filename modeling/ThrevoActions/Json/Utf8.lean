import ThrevoActions.Canonical

/-!
# UTF-8 texts

What `encodeUtf8` accepts, and the decoder that undoes it. `json.loads` decodes bytes with
`surrogatepass`, so a surrogate may be read although it is never written.
-/

namespace ThrevoActions

/-! ## Encoding -/

/-- A UTF-16 surrogate. -/
def CodePoint.isSurrogate (c : CodePoint) : Bool := decide (0xd800 ≤ c.val ∧ c.val ≤ 0xdfff)

theorem encodeUtf8Char_eq_none_iff {c : CodePoint} :
    encodeUtf8Char c = none ↔ c.isSurrogate = true := by
  rw [encodeUtf8Char, CodePoint.isSurrogate, decide_eq_true_eq]
  split_ifs with hone htwo hsurrogate hthree
  · exact iff_of_false not_false (by omega)
  · exact iff_of_false not_false (by omega)
  · exact iff_of_true rfl hsurrogate
  · exact iff_of_false not_false hsurrogate
  · exact iff_of_false not_false hsurrogate

/-- A text without surrogates has an encoding. -/
theorem exists_encodeUtf8 {s : PyStr} (h : ∀ c ∈ s, c.isSurrogate = false) :
    ∃ bytes, encodeUtf8 s = .ok bytes := by
  induction s with
  | nil => exact ⟨[], rfl⟩
  | cons c s ih =>
    obtain ⟨bytes, hbytes⟩ := ih fun c' hc' ↦ h c' (List.mem_cons_of_mem _ hc')
    have hsome : encodeUtf8Char c ≠ none := by
      rw [ne_eq, encodeUtf8Char_eq_none_iff, h c List.mem_cons_self]
      exact Bool.false_ne_true
    obtain ⟨head, hhead⟩ := Option.ne_none_iff_exists'.mp hsome
    refine ⟨head ++ bytes, ?_⟩
    rw [encodeUtf8, hhead]
    dsimp only
    rw [hbytes]
    rfl

/-- A text with a surrogate has none. -/
theorem encodeUtf8_of_surrogate {s : PyStr} (h : ∃ c ∈ s, c.isSurrogate = true) :
    encodeUtf8 s = .error .unicodeEncode := by
  induction s with
  | nil =>
    obtain ⟨c, hc, -⟩ := h
    cases hc
  | cons c s ih =>
    rw [encodeUtf8]
    cases hhead : encodeUtf8Char c with
    | none => rfl
    | some head =>
      dsimp only
      obtain ⟨c', hc', hsurrogate⟩ := h
      rcases List.mem_cons.mp hc' with rfl | hc'
      · rw [encodeUtf8Char_eq_none_iff.mpr hsurrogate] at hhead
        cases hhead
      · rw [ih ⟨c', hc', hsurrogate⟩]
        rfl

/-! ## Decoding -/

/-- The code point of a number. -/
def codePoint? (n : ℕ) : Option CodePoint := if h : n < 0x110000 then some ⟨n, h⟩ else none

/-- The six bits of a continuation byte. -/
def tailBits? (b : UInt8) : Option ℕ :=
  if 0x80 ≤ b.toNat ∧ b.toNat < 0xc0 then some (b.toNat - 0x80) else none

/-- The first code point of an encoded text, and what follows it. Overlong forms are refused. -/
def decodeUtf8Char : Bytes → Option (CodePoint × Bytes)
  | [] => none
  | b₀ :: rest =>
    if b₀.toNat < 0x80 then (codePoint? b₀.toNat).map (·, rest)
    else if 0xc2 ≤ b₀.toNat ∧ b₀.toNat < 0xe0 then
      match rest with
      | b₁ :: rest => do
        let x₁ ← tailBits? b₁
        let c ← codePoint? ((b₀.toNat - 0xc0) * 64 + x₁)
        return (c, rest)
      | _ => none
    else if 0xe0 ≤ b₀.toNat ∧ b₀.toNat < 0xf0 then
      match rest with
      | b₁ :: b₂ :: rest => do
        let x₁ ← tailBits? b₁
        let x₂ ← tailBits? b₂
        let c ← codePoint? (((b₀.toNat - 0xe0) * 64 + x₁) * 64 + x₂)
        if 0x800 ≤ c.val then return (c, rest) else none
      | _ => none
    else if 0xf0 ≤ b₀.toNat ∧ b₀.toNat < 0xf8 then
      match rest with
      | b₁ :: b₂ :: b₃ :: rest => do
        let x₁ ← tailBits? b₁
        let x₂ ← tailBits? b₂
        let x₃ ← tailBits? b₃
        let c ← codePoint? ((((b₀.toNat - 0xf0) * 64 + x₁) * 64 + x₂) * 64 + x₃)
        if 0x10000 ≤ c.val then return (c, rest) else none
      | _ => none
    else none

/-- The text of the bytes, of at most `fuel` code points. -/
def decodeUtf8Upto : ℕ → Bytes → Option PyStr
  | _, [] => some []
  | 0, _ :: _ => none
  | fuel + 1, b :: bytes => do
    let (c, rest) ← decodeUtf8Char (b :: bytes)
    let s ← decodeUtf8Upto fuel rest
    return c :: s

/-- `data.decode("utf-8", "surrogatepass")`: a text has at most as many code points as bytes. -/
def decodeUtf8 (data : Bytes) : Option PyStr := decodeUtf8Upto data.length data

theorem toNat_toUInt8 (n : ℕ) : n.toUInt8.toNat = n % 256 := rfl

theorem tailBits?_tail {x : ℕ} (hx : x < 64) : tailBits? (0x80 + x).toUInt8 = some x := by
  rw [tailBits?, toNat_toUInt8, Nat.mod_eq_of_lt (by omega), if_pos (by omega)]
  exact congrArg some (by omega)

theorem codePoint?_val (c : CodePoint) : codePoint? c.val = some c := by
  rw [codePoint?, dif_pos c.isLt]

/-- **The decoder undoes the encoder**, one code point at a time. -/
theorem decodeUtf8Char_encode {c : CodePoint} {bytes : Bytes} (h : encodeUtf8Char c = some bytes)
    (rest : Bytes) : decodeUtf8Char (bytes ++ rest) = some (c, rest) := by
  have hlt := c.isLt
  rw [encodeUtf8Char] at h
  split_ifs at h with hone htwo hsurrogate hthree <;> cases h
  · have hlead : c.val % 256 = c.val := Nat.mod_eq_of_lt (by omega)
    unfold decodeUtf8Char
    dsimp only [List.singleton_append]
    rw [toNat_toUInt8, hlead, if_pos hone, codePoint?_val]
    rfl
  · have hlead : (0xc0 + c.val / 64) % 256 = 0xc0 + c.val / 64 := Nat.mod_eq_of_lt (by omega)
    have hsum : (0xc0 + c.val / 64 - 0xc0) * 64 + c.val % 64 = c.val := by omega
    simp only [List.cons_append, List.nil_append, decodeUtf8Char, toNat_toUInt8, hlead]
    rw [if_neg (by omega), if_pos (by omega), tailBits?_tail (by omega)]
    simp only [Option.bind_eq_bind, Option.bind_some, hsum, codePoint?_val]
    rfl
  · have hlead : (0xe0 + c.val / 4096) % 256 = 0xe0 + c.val / 4096 := Nat.mod_eq_of_lt (by omega)
    have hsum : ((0xe0 + c.val / 4096 - 0xe0) * 64 + c.val / 64 % 64) * 64 + c.val % 64 =
        c.val := by omega
    simp only [List.cons_append, List.nil_append, decodeUtf8Char, toNat_toUInt8, hlead]
    rw [if_neg (by omega), if_neg (by omega), if_pos (by omega), tailBits?_tail (by omega),
      tailBits?_tail (by omega)]
    simp only [Option.bind_eq_bind, Option.bind_some, hsum, codePoint?_val]
    exact if_pos (by omega)
  · have hlead : (0xf0 + c.val / 262144) % 256 = 0xf0 + c.val / 262144 :=
      Nat.mod_eq_of_lt (by omega)
    have hsum : (((0xf0 + c.val / 262144 - 0xf0) * 64 + c.val / 4096 % 64) * 64 +
        c.val / 64 % 64) * 64 + c.val % 64 = c.val := by omega
    simp only [List.cons_append, List.nil_append, decodeUtf8Char, toNat_toUInt8, hlead]
    rw [if_neg (by omega), if_neg (by omega), if_neg (by omega), if_pos (by omega),
      tailBits?_tail (by omega), tailBits?_tail (by omega), tailBits?_tail (by omega)]
    simp only [Option.bind_eq_bind, Option.bind_some, hsum, codePoint?_val]
    exact if_pos (by omega)

theorem encodeUtf8Char_ne_nil {c : CodePoint} {bytes : Bytes} (h : encodeUtf8Char c = some bytes) :
    bytes ≠ [] := by
  rintro rfl
  have hdecoded := decodeUtf8Char_encode h []
  cases hdecoded

theorem decodeUtf8Upto_encode {s : PyStr} {bytes : Bytes} (h : encodeUtf8 s = .ok bytes)
    {fuel : ℕ} (hfuel : bytes.length ≤ fuel) : decodeUtf8Upto fuel bytes = some s := by
  induction s generalizing bytes fuel with
  | nil =>
    cases h
    rw [decodeUtf8Upto]
  | cons c s ih =>
    rw [encodeUtf8] at h
    cases hhead : encodeUtf8Char c with
    | none =>
      rw [hhead] at h
      cases h
    | some head =>
      rw [hhead] at h
      obtain ⟨rest, hrest, hbytes⟩ := Except.bind_eq_ok.mp h
      cases hbytes
      have hdecoded := decodeUtf8Char_encode hhead rest
      cases head with
      | nil => exact absurd rfl (encodeUtf8Char_ne_nil hhead)
      | cons b head =>
        rw [List.cons_append, List.length_cons, List.length_append] at hfuel
        obtain ⟨fuel, rfl⟩ : ∃ fuel', fuel = fuel' + 1 := ⟨fuel - 1, by omega⟩
        rw [List.cons_append] at hdecoded ⊢
        rw [decodeUtf8Upto, hdecoded, Option.bind_eq_bind, Option.bind_some]
        dsimp only
        rw [ih hrest (by omega)]
        rfl

/-- **Decoding what was encoded.** -/
theorem decodeUtf8_encode {s : PyStr} {bytes : Bytes} (h : encodeUtf8 s = .ok bytes) :
    decodeUtf8 bytes = some s :=
  decodeUtf8Upto_encode h le_rfl

end ThrevoActions
