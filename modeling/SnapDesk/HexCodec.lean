import SnapDesk.NumberValue

/-! # Numbers in hexadecimal

Between two functions of a script a number is text: `hex_string` prints two digits
for a byte, and `from_hex_string` reads two characters at a time.  The one undoes the
other, in both directions (`hexCodec_roundTrip`), and no byte is lost at the front,
so the text of a number is one of its bytes (`hexPairs_hexString`).

Every pair goes through `std::stoul`, which is content with one digit: behind it anything
may stand, and in front of it a blank or a sign (`acceptsHex_iff`). -/
namespace SnapDesk

/-- `toupper` in the C locale. -/
def toUpper (c : UInt8) : UInt8 := if 97 ≤ c ∧ c ≤ 122 then c - 32 else c

/-- Two hexadecimal digits. -/
theorem stoul_hex_pair {c d : UInt8} (hc : isXDigit c = true) (hd : isXDigit d = true) :
    stoul [c, d] 16 = .ok (digitValue c * 16 + digitValue d) := by
  obtain ⟨hparse, hlt⟩ := parseInteger_hex_pair hc hd
  simp only [stoul, hparse]
  rw [if_neg (by omega)]
  rfl

theorem isXDigit_hexDigit :
    ∀ d < 16, isXDigit (hexDigit d) = true ∧ digitValue (hexDigit d) = d := by
  decide

set_option maxRecDepth 4000 in
/-- Printing a digit that was read turns it into its upper case. -/
theorem hexDigit_digitValue (c : UInt8) :
    isXDigit c = true → hexDigit (digitValue c) = toUpper c := by
  have key : ∀ c : UInt8, isXDigit c = true → hexDigit (digitValue c) = toUpper c :=
    byte_forall (by decide)
  exact key c

namespace BigNumber

/-- The pair of digits at the head of the text is the first byte. -/
theorem hexPairs_cons {c d : UInt8} (hc : isXDigit c = true) (hd : isXDigit d = true) (rest : Str) :
    hexPairs (c :: d :: rest) = (do
      let number ← hexPairs rest
      return UInt8.ofNat (digitValue c * 16 + digitValue d) :: number) := by
  have hplain : 0 ∉ [c, d] := by
    intro hmem
    rcases List.mem_pair.mp hmem with h | h
    · exact (isXDigit_plain c hc).1 h.symm
    · exact (isXDigit_plain d hd).1 h.symm
  rw [hexPairs, cStr_eq_self hplain, stoul_hex_pair hc hd]
  rfl

/-- Reading undoes printing, byte by byte. -/
theorem hexPairs_hexString (number : List UInt8) :
    hexPairs (number.flatMap hexByte) = .ok number := by
  induction number with
  | nil => rfl
  | cons b number ih =>
    have hlt := b.toNat_lt
    obtain ⟨hhigh, hhighValue⟩ := isXDigit_hexDigit (b.toNat / 16) (by omega)
    obtain ⟨hlow, hlowValue⟩ := isXDigit_hexDigit (b.toNat % 16) (by omega)
    have hbyte : UInt8.ofNat (b.toNat / 16 * 16 + b.toNat % 16) = b := by
      rw [Nat.div_add_mod', UInt8.ofNat_toNat]
    have htext : (b :: number).flatMap hexByte =
        hexDigit (b.toNat / 16) :: hexDigit (b.toNat % 16) :: number.flatMap hexByte := rfl
    rw [htext, hexPairs_cons hhigh hlow, ih, hhighValue, hlowValue, hbyte]
    rfl

/-- The bytes that a text of digits spells, two digits each. -/
def digitPairs : Str → List UInt8
  | c :: d :: rest => UInt8.ofNat (digitValue c * 16 + digitValue d) :: digitPairs rest
  | _ => []

/-- A text of digits is read as its pairs. -/
theorem hexPairs_eq (s : Str) (heven : s.length % 2 = 0) (hs : ∀ c ∈ s, isXDigit c = true) :
    hexPairs s = .ok (digitPairs s) := by
  induction s using hexPairs.induct with
  | case1 => rfl
  | case2 c => simp at heven
  | case3 c d rest ih =>
    have hrest := ih (by simp at heven; omega) fun x hx => hs x (by simp [hx])
    rw [hexPairs_cons (hs c (by simp)) (hs d (by simp)), hrest]
    rfl

/-- Printing undoes reading, up to the case of the digits. -/
theorem digitPairs_hexByte (s : Str) (heven : s.length % 2 = 0)
    (hs : ∀ c ∈ s, isXDigit c = true) : (digitPairs s).flatMap hexByte = s.map toUpper := by
  induction s using hexPairs.induct with
  | case1 => rfl
  | case2 c => simp at heven
  | case3 c d rest ih =>
    have hc := hs c (by simp)
    have hd := hs d (by simp)
    have hltc : digitValue c < 16 := of_decide_eq_true hc
    have hltd : digitValue d < 16 := of_decide_eq_true hd
    have htext := ih (by simp at heven; omega) fun x hx => hs x (by simp [hx])
    have hbyte : (UInt8.ofNat (digitValue c * 16 + digitValue d)).toNat =
        digitValue c * 16 + digitValue d := Nat.mod_eq_of_lt (by omega)
    have hhigh : (digitValue c * 16 + digitValue d) / 16 = digitValue c := by omega
    have hlow : (digitValue c * 16 + digitValue d) % 16 = digitValue d := by omega
    rw [digitPairs, List.flatMap_cons, htext, hexByte, hbyte, hhigh, hlow,
      hexDigit_digitValue c hc, hexDigit_digitValue d hd]
    rfl

theorem fromHexString_hexString {number : List UInt8} (h : number ≠ []) :
    fromHexString (number.flatMap hexByte) = .ok (ofVector number) := by
  have hne : number.flatMap hexByte ≠ [] := by
    obtain ⟨b, rest, rfl⟩ := List.exists_cons_of_ne_nil h
    exact List.cons_ne_nil _ _
  rw [fromHexString, if_neg hne, hexPairs_hexString]
  rfl

theorem fromHexString_of_ne {s : Str} (hne : s ≠ []) :
    fromHexString s = hexPairs s >>= fun number =>
    (.ok (ofVector number) : Except Failure BigNumber) := if_neg hne

/-- **The hexadecimal text of a number round-trips**, from the number and from the text. -/
theorem hexCodec_roundTrip :
    (∀ x : BigNumber, x.isNull = false → x.number ≠ [] →
      ∃ s y, x.hexString = .ok s ∧ fromHexString s = .ok y ∧ y.isNull = false ∧
        y.number = x.number) ∧
    ∀ s : Str, s ≠ [] → s.length % 2 = 0 → (∀ c ∈ s, isXDigit c = true) →
      ∃ x, fromHexString s = .ok x ∧ x.hexString = .ok (s.map toUpper) := by
  constructor
  · intro x hnull hne
    exact ⟨_, ofVector x.number, hexString_eq hnull, fromHexString_hexString hne, rfl, rfl⟩
  · intro s hne heven hs
    refine ⟨ofVector (digitPairs s), ?_, ?_⟩
    · rw [fromHexString_of_ne hne, hexPairs_eq s heven hs]
      rfl
    · rw [hexString_eq rfl, ← digitPairs_hexByte s heven hs]
      rfl

/-- A zero byte in front, and digits of both cases. -/
theorem hexCodec_roundTrip_zero :
    (∃ s y, (ofVector [0, 0xAB]).hexString = .ok s ∧ fromHexString s = .ok y ∧ y.isNull = false ∧
      y.number = [0, 0xAB]) ∧
    ∃ x, fromHexString (lit "00aBf7") = .ok x ∧ x.hexString = .ok ((lit "00aBf7").map toUpper) :=
  ⟨hexCodec_roundTrip.1 (ofVector [0, 0xAB]) rfl (by decide),
    hexCodec_roundTrip.2 (lit "00aBf7") (by decide) (by decide) (by decide)⟩

/-! ### What is accepted -/

/-- A numeral without the sign in front of it. -/
def withoutSign (s : Str) : Str := if s.head? = some 45 ∨ s.head? = some 43 then s.tail else s

/-- The digits that `strtoul` reads in base 16 of a string too short for a prefix. -/
def shortDigits (s : Str) : Str := (withoutSign ((cStr s).dropWhile isSpace)).takeWhile isXDigit

theorem length_numeral_le (s : Str) :
    (withoutSign ((cStr s).dropWhile isSpace)).length ≤ s.length := by
  have hstring : (cStr s).length ≤ s.length := (List.takeWhile_prefix _).length_le
  have hblanks : ((cStr s).dropWhile isSpace).length ≤ (cStr s).length :=
    (List.dropWhile_suffix _).length_le
  rw [withoutSign]
  split
  · rw [List.length_tail]
    omega
  · omega

theorem parseInteger_short {s : Str} (h : s.length ≤ 2) :
    parseInteger 16 s = if shortDigits s = [] then none
      else some (decide (((cStr s).dropWhile isSpace).head? = some 45),
        digitsValue 16 (shortDigits s)) := by
  have hprefix : dropHexPrefix (withoutSign ((cStr s).dropWhile isSpace)) =
      withoutSign ((cStr s).dropWhile isSpace) := by
    have hlength := length_numeral_le s
    unfold dropHexPrefix
    split
    · rename_i heq
      rw [heq] at hlength
      simp only [List.length_cons] at hlength
      omega
    · rfl
  rw [withoutSign] at hprefix
  simp only [parseInteger, if_true, hprefix]
  rfl

/-- Digits denote less than the power of the base of their number. -/
theorem digitsValue_lt {base : Nat} {ds : Str} (h : ∀ c ∈ ds, digitValue c < base) :
    digitsValue base ds < base ^ ds.length := by
  induction ds using List.reverseRecOn with
  | nil => exact Nat.one_pos
  | append_singleton ds c ih =>
    have hlast : digitValue c < base := h c (by simp)
    have hinit := ih fun x hx => h x (List.mem_append_left _ hx)
    have hstep : digitsValue base (ds ++ [c]) = digitsValue base ds * base + digitValue c := by
      rw [digitsValue, List.foldl_append]
      rfl
    rw [hstep, List.length_append, List.length_singleton, Nat.pow_succ]
    calc digitsValue base ds * base + digitValue c
        < digitsValue base ds * base + base := by omega
      _ = (digitsValue base ds + 1) * base := (Nat.succ_mul _ _).symm
      _ ≤ base ^ ds.length * base := Nat.mul_le_mul_right _ hinit

/-- One or two characters are read exactly if there is a digit to read. -/
theorem stoul_short {s : Str} (h : s.length ≤ 2) :
    (shortDigits s = [] → stoul s 16 = .error (.invalidArgument (lit "stoul"))) ∧
      (shortDigits s ≠ [] → ∃ n, stoul s 16 = .ok n) := by
  constructor
  · intro hnone
    simp only [stoul, parseInteger_short h, if_pos hnone]
  · intro hsome
    have hdigits : ∀ c ∈ shortDigits s, digitValue c < 16 :=
      fun c hc => of_decide_eq_true (show isXDigit c = true from List.mem_takeWhile_imp hc)
    have hlength : (shortDigits s).length ≤ 2 :=
      (List.takeWhile_prefix _).length_le.trans ((length_numeral_le s).trans h)
    have hlt : digitsValue 16 (shortDigits s) < 2 ^ 64 :=
      calc digitsValue 16 (shortDigits s)
          < 16 ^ (shortDigits s).length := digitsValue_lt hdigits
        _ ≤ 16 ^ 2 := Nat.pow_le_pow_right (by decide) hlength
        _ < 2 ^ 64 := by decide
    simp only [stoul, parseInteger_short h, if_neg hsome, if_neg (Nat.not_le.mpr hlt)]
    exact ⟨_, rfl⟩

/-- A pair of characters of which `strtoul` reads a digit: the first is one, or the second
stands behind a blank or a sign. -/
def readable (c d : UInt8) : Bool :=
  isXDigit c || ((isSpace c || c = 43 || c = 45) && isXDigit d)

/-- A digit behind whatever may stand in front of it. -/
theorem shortDigits_one (d : UInt8) : shortDigits [d] ≠ [] ↔ isXDigit d = true := by
  by_cases hx : isXDigit d = true
  · have hplain := isXDigit_plain d hx
    simp [shortDigits, withoutSign, cStr, hx, hplain]
  · refine iff_of_false (not_not_intro ?_) hx
    by_cases h0 : d = 0
    · rw [h0]
      rfl
    by_cases hspace : isSpace d = true
    · simp [shortDigits, withoutSign, cStr, h0, hspace]
    by_cases hsign : d = 45 ∨ d = 43
    · simp [shortDigits, withoutSign, cStr, h0, hspace, hsign]
    · simp [shortDigits, withoutSign, cStr, h0, hspace, hsign, hx]

theorem shortDigits_pair (c d : UInt8) : shortDigits (cStr [c, d]) ≠ [] ↔ readable c d = true := by
  have hstring : shortDigits (cStr [c, d]) = shortDigits [c, d] := by
    rw [shortDigits, shortDigits, cStr, cStr, List.takeWhile_idem]
  rw [hstring]
  by_cases hx : isXDigit c = true
  · have hplain := isXDigit_plain c hx
    simp [shortDigits, withoutSign, cStr, readable, hx, hplain]
  by_cases h0 : c = 0
  · rw [h0]
    exact iff_of_false (not_not_intro rfl) Bool.false_ne_true
  by_cases hspace : isSpace c = true
  · -- a blank is skipped
    have hskip : shortDigits [c, d] = shortDigits [d] := by
      simp [shortDigits, cStr, h0, hspace]
    rw [hskip, shortDigits_one]
    simp [readable, hx, hspace]
  by_cases hsign : c = 45 ∨ c = 43
  · -- a sign is skipped, and nothing behind it
    have hskip : shortDigits [c, d] = (cStr [d]).takeWhile isXDigit := by
      simp [shortDigits, withoutSign, cStr, h0, hspace, hsign]
    have hdigit : (cStr [d]).takeWhile isXDigit ≠ [] ↔ isXDigit d = true := by
      by_cases hd : isXDigit d = true
      · simp [cStr, hd, isXDigit_plain d hd]
      · refine iff_of_false (not_not_intro ?_) hd
        by_cases h0 : d = 0
        · rw [h0]
          rfl
        · simp [cStr, hd, h0]
    have hmark : (isSpace c || decide (c = 43) || decide (c = 45)) = true := by
      rcases hsign with rfl | rfl <;> rfl
    rw [hskip, hdigit, readable, hmark, Bool.eq_false_iff.mpr hx, Bool.true_and, Bool.false_or]
  · simp [shortDigits, withoutSign, cStr, readable, h0, hx, hspace, not_or.mp hsign]

/-- Every pair of characters is readable, the last one of an odd text with the end of the
string. -/
def PairsReadable : Str → Prop
  | [] => True
  | [c] => readable c 0 = true
  | c :: d :: rest => readable c d = true ∧ PairsReadable rest

/-- The loop returns exactly on the texts whose pairs are readable. -/
theorem hexPairs_cases (s : Str) :
    (PairsReadable s → ∃ number, hexPairs s = .ok number) ∧
      (¬ PairsReadable s → hexPairs s = .error (.invalidArgument (lit "stoul"))) := by
  have hpair (c d : UInt8) : (cStr [c, d]).length ≤ 2 :=
    (List.takeWhile_prefix _).length_le
  induction s using hexPairs.induct with
  | case1 => exact ⟨fun _ => ⟨[], rfl⟩, fun h => absurd trivial h⟩
  | case2 c =>
    have hshort := stoul_short (hpair c 0)
    refine ⟨fun h => ?_, fun h => ?_⟩
    · obtain ⟨n, hn⟩ := hshort.2 ((shortDigits_pair c 0).mpr h)
      exact ⟨[UInt8.ofNat n], by rw [hexPairs, hn]; rfl⟩
    · rw [hexPairs, hshort.1 (not_not.mp (mt (shortDigits_pair c 0).mp h))]
      rfl
  | case3 c d rest ih =>
    have hshort := stoul_short (hpair c d)
    by_cases hread : readable c d = true
    · obtain ⟨n, hn⟩ := hshort.2 ((shortDigits_pair c d).mpr hread)
      rw [hexPairs, hn, ok_bind]
      refine ⟨fun h => ?_, fun h => ?_⟩
      · obtain ⟨number, hnumber⟩ := ih.1 h.2
        exact ⟨UInt8.ofNat n :: number, by rw [hnumber]; rfl⟩
      · rw [ih.2 fun hrest => h ⟨hread, hrest⟩]
        rfl
    · refine ⟨fun h => absurd h.1 hread, fun _ => ?_⟩
      rw [hexPairs, hshort.1 (not_not.mp (mt (shortDigits_pair c d).mp hread))]
      rfl

/-- Digits in pairs. -/
structure IsHexText (s : Str) : Prop where
  ne : s ≠ []
  even : s.length % 2 = 0
  digits : ∀ c ∈ s, isXDigit c = true

/-- The empty text is the null number, a text of digits the number it spells, and any other
text is rejected. -/
structure AcceptsHex (s : Str) : Prop where
  empty : s = [] → fromHexString s = .ok null
  digits : IsHexText s → fromHexString s = .ok (ofVector (digitPairs s))
  rejects : s ≠ [] → ¬ IsHexText s → ∃ e, fromHexString s = .error e ∧ e.isException = true

/-- **`from_hex_string` accepts hexadecimal text only** where a text of another kind has a
pair that is not readable. -/
theorem acceptsHex_iff (s : Str) :
    AcceptsHex s ↔ s = [] ∨ IsHexText s ∨ ¬ PairsReadable s := by
  constructor
  · intro h
    by_contra hnot
    simp only [not_or, not_not] at hnot
    obtain ⟨hne, htext, hread⟩ := hnot
    obtain ⟨number, hnumber⟩ := (hexPairs_cases s).1 hread
    obtain ⟨e, herror, -⟩ := h.rejects hne htext
    rw [fromHexString_of_ne hne, hnumber] at herror
    cases herror
  · intro h
    refine ⟨fun hempty => by rw [hempty]; rfl, fun htext => ?_, fun hne htext => ?_⟩
    · rw [fromHexString_of_ne htext.ne, hexPairs_eq s htext.even htext.digits]
      rfl
    · rcases h with hempty | htext' | hread
      · exact absurd hempty hne
      · exact absurd htext' htext
      · refine ⟨.invalidArgument (lit "stoul"), ?_, rfl⟩
        rw [fromHexString_of_ne hne, (hexPairs_cases s).2 hread]
        rfl

/-- **Other texts are accepted too**: one with a letter that is no digit, one with a digit too
many, and one with a sign. -/
theorem not_acceptsHex :
    ¬ AcceptsHex (lit "1g") ∧ ¬ AcceptsHex (lit "abc") ∧ ¬ AcceptsHex (lit "-1") := by
  have haccepts {s : Str} {x : BigNumber} (hne : s ≠ []) (htext : ¬ IsHexText s)
      (hrun : fromHexString s = .ok x) : ¬ AcceptsHex s := by
    intro h
    obtain ⟨e, herror, -⟩ := h.rejects hne htext
    rw [hrun] at herror
    cases herror
  have hone : fromHexString (lit "1g") = .ok (ofVector [1]) := by decide
  have htwo : fromHexString (lit "abc") = .ok (ofVector [0xAB, 0xC]) := by decide
  have hlarge : fromHexString (lit "-1") = .ok (ofVector [0xFF]) := by decide
  refine ⟨haccepts (by decide) (fun h => ?_) hone, haccepts (by decide) (fun h => ?_) htwo,
    haccepts (by decide) (fun h => ?_) hlarge⟩
  · exact absurd (h.digits 103 (by decide)) (by decide)
  · exact absurd h.even (by decide)
  · exact absurd (h.digits 45 (by decide)) (by decide)

end BigNumber
end SnapDesk
