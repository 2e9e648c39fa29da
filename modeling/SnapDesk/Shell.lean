import Mathlib.Algebra.GroupWithZero.Nat
import Mathlib.Data.List.Basic

/-! # Words of a shell command

The part of the POSIX shell's token recognition that says what a command line is
made of.  `words` reads a command line that is one simple command of literal
words and returns them; where an unquoted or quoted character asks for anything
else (an expansion, a substitution, a pattern, a redirection, a comment, a second
command) or a quotation does not end, there is no result.

Blanks, quotation marks and escaping backslashes are the bytes that no word
keeps.  `fromUnquoted_length` and `fromDouble_length` count them: a command line
is longer than its words together by at least one byte a word, and by one more
where it holds a double quotation mark. -/
namespace Shell

/-- The bytes that are not literal outside quotation marks: `|`, `&`, `;`, `<`,
`>`, `(`, `)`, `$`, a backquote, a newline, `*`, `?` and `[`. -/
def isOperator (c : UInt8) : Bool :=
  c ∈ ([124, 38, 59, 60, 62, 40, 41, 36, 96, 10, 42, 63, 91] : List UInt8)

/-- `#` and `~`, which are literal only inside a word. -/
def beginsNoWord (c : UInt8) : Bool := c = 35 || c = 126

/-- The bytes that a backslash escapes inside double quotation marks: `$`, a
backquote, `"` and the backslash. -/
def isEscapable (c : UInt8) : Bool := c ∈ ([36, 96, 34, 92] : List UInt8)

mutual

/-- Outside quotation marks, in a word or between two words. -/
def fromUnquoted : Option (List UInt8) → List UInt8 → Option (List (List UInt8))
  | word, [] => some word.toList
  | word, c :: rest =>
      if c = 32 ∨ c = 9 then (fromUnquoted none rest).map (word.toList ++ ·)
      else if c = 39 then fromSingle (word.getD []) rest
      else if c = 34 then fromDouble (word.getD []) rest
      else if c = 92 then
        match rest with
        | [] => none
        | d :: rest => if d = 10 then fromUnquoted word rest
            else fromUnquoted (some (word.getD [] ++ [d])) rest
      else if isOperator c ∨ (word = none ∧ beginsNoWord c) then none
      else fromUnquoted (some (word.getD [] ++ [c])) rest

/-- Inside single quotation marks everything is literal. -/
def fromSingle : List UInt8 → List UInt8 → Option (List (List UInt8))
  | _, [] => none
  | word, c :: rest => if c = 39 then fromUnquoted (some word) rest else fromSingle (word ++ [c]) rest

/-- Inside double quotation marks. -/
def fromDouble : List UInt8 → List UInt8 → Option (List (List UInt8))
  | _, [] => none
  | word, c :: rest =>
      if c = 34 then fromUnquoted (some word) rest
      else if c = 36 ∨ c = 96 then none
      else if c = 92 then
        match rest with
        | [] => none
        | d :: rest' =>
            if isEscapable d then fromDouble (word ++ [d]) rest'
            else if d = 10 then fromDouble word rest'
            else fromDouble (word ++ [c]) (d :: rest')
      else fromDouble (word ++ [c]) rest

end

/-- The words of a command line. -/
def words (line : List UInt8) : Option (List (List UInt8)) := fromUnquoted none line

/-! ### Unquoted words -/

/-- The bytes that are literal everywhere outside quotation marks. -/
def isPlain (c : UInt8) : Bool :=
  c ≠ 32 && c ≠ 9 && c ≠ 39 && c ≠ 34 && c ≠ 92 && !isOperator c && !beginsNoWord c

theorem fromUnquoted_plain_cons {c : UInt8} (h : isPlain c = true) (word : Option (List UInt8))
    (rest : List UInt8) :
    fromUnquoted word (c :: rest) = fromUnquoted (some (word.getD [] ++ [c])) rest := by
  simp only [isPlain, Bool.and_eq_true, decide_eq_true_eq, Bool.not_eq_true'] at h
  obtain ⟨⟨⟨⟨⟨⟨h32, h9⟩, h39⟩, h34⟩, h92⟩, hop⟩, hbegin⟩ := h
  rw [fromUnquoted.eq_def]
  dsimp only
  rw [if_neg (by simp [h32, h9]), if_neg h39, if_neg h34, if_neg h92,
    if_neg (by simp [hop, hbegin])]

theorem fromUnquoted_plain {text : List UInt8} (h : ∀ c ∈ text, isPlain c = true)
    (word rest : List UInt8) :
    fromUnquoted (some word) (text ++ rest) = fromUnquoted (some (word ++ text)) rest := by
  induction text generalizing word with
  | nil => rw [List.nil_append, List.append_nil]
  | cons c text ih =>
    rw [List.cons_append, fromUnquoted_plain_cons (h c List.mem_cons_self), Option.getD_some,
      ih (fun d hd => h d (List.mem_cons_of_mem c hd)), List.append_assoc, List.singleton_append]

theorem fromUnquoted_blank (word : Option (List UInt8)) (rest : List UInt8) :
    fromUnquoted word (32 :: rest) = (fromUnquoted none rest).map (word.toList ++ ·) := by
  rw [fromUnquoted.eq_def]
  exact if_pos (.inl rfl)

/-- A plain word before whatever ends it. -/
theorem fromUnquoted_word {text : List UInt8} (hne : text ≠ []) (h : ∀ c ∈ text, isPlain c = true)
    (rest : List UInt8) : fromUnquoted none (text ++ rest) = fromUnquoted (some text) rest := by
  obtain ⟨c, text, rfl⟩ := List.exists_cons_of_ne_nil hne
  rw [List.cons_append, fromUnquoted_plain_cons (h c List.mem_cons_self),
    fromUnquoted_plain fun d hd => h d (List.mem_cons_of_mem c hd)]
  rfl

theorem fromUnquoted_nil (word : Option (List UInt8)) :
    fromUnquoted word [] = some word.toList := by
  rw [fromUnquoted.eq_def]

/-- A double quotation mark between two words. -/
theorem fromUnquoted_quote (rest : List UInt8) :
    fromUnquoted none (34 :: rest) = fromDouble [] rest := by
  rw [fromUnquoted.eq_def]
  rfl

/-! ### Counting the bytes that no word keeps -/

/-- The bytes of some words, and one more a word. -/
def textLength (ws : List (List UInt8)) : Nat := (ws.map fun w => w.length + 1).sum

theorem textLength_cons (w : List UInt8) (ws : List (List UInt8)) :
    textLength (w :: ws) = w.length + 1 + textLength ws := rfl

/-- One for a double quotation mark somewhere in the line. -/
def quoted (line : List UInt8) : Nat := if 34 ∈ line then 1 else 0

theorem quoted_le (line : List UInt8) : quoted line ≤ 1 := by
  unfold quoted
  split <;> omega

theorem quoted_cons_le (c : UInt8) (line : List UInt8) : quoted (c :: line) ≤ 1 + quoted line := by
  have := quoted_le (c :: line)
  omega

theorem quoted_cons_of_ne {c : UInt8} (h : c ≠ 34) (line : List UInt8) :
    quoted (c :: line) = quoted line := by
  simp [quoted, Ne.symm h]

/-- However the line is read, the words are made of its bytes and of the word begun. -/
structure Bounded (line : List UInt8) : Prop where
  unquoted {word : Option (List UInt8)} {ws : List (List UInt8)} :
    fromUnquoted word line = some ws → textLength ws + quoted line ≤ line.length + (word.getD []).length + 1
  single {word : List UInt8} {ws : List (List UInt8)} :
    fromSingle word line = some ws → textLength ws ≤ line.length + word.length
  double {word : List UInt8} {ws : List (List UInt8)} :
    fromDouble word line = some ws → textLength ws ≤ line.length + word.length

section
variable {c : UInt8} {rest : List UInt8} {ws : List (List UInt8)}

theorem bounded_nil : Bounded [] where
  unquoted {word ws} h := by
    obtain rfl := Option.some.inj h
    cases word <;> simp [textLength, quoted]
  single h := by cases h
  double h := by cases h

/-- A byte outside quotation marks; a backslash takes the next one along. -/
theorem Bounded.cons_unquoted (hrest : Bounded rest) (htail : Bounded rest.tail)
    {word : Option (List UInt8)} (h : fromUnquoted word (c :: rest) = some ws) :
    textLength ws + quoted (c :: rest) ≤ (c :: rest).length + (word.getD []).length + 1 := by
  have hquoted := quoted_le (c :: rest)
  rw [List.length_cons]
  rw [fromUnquoted.eq_def] at h
  dsimp only at h
  split_ifs at h with hblank hsingle hdouble hescape hop
  · -- a blank ends the word
    obtain ⟨vs, hvs, rfl⟩ := Option.map_eq_some_iff.mp h
    have hlen := hrest.unquoted hvs
    rw [quoted_cons_of_ne (by rcases hblank with rfl | rfl <;> decide)]
    rcases word with _ | w
    · simpa using Nat.le_succ_of_le hlen
    · simp only [Option.toList_some, List.singleton_append, textLength_cons, Option.getD_some,
        Option.getD_none, List.length_nil] at hlen ⊢
      omega
  · have hlen := hrest.single h
    omega
  · have hlen := hrest.double h
    omega
  · -- the mark counted is behind the byte that is escaped, or is that byte
    rcases rest with _ | ⟨d, rest'⟩
    · cases h
    rw [List.tail_cons] at htail
    have hmark := quoted_cons_le d rest'
    rw [quoted_cons_of_ne (by rw [hescape]; decide), List.length_cons]
    replace h : (if d = 10 then fromUnquoted word rest' else
        fromUnquoted (some (word.getD [] ++ [d])) rest') = some ws := h
    split_ifs at h
    · have hlen := htail.unquoted h
      omega
    · have hlen := htail.unquoted h
      rw [Option.getD_some, List.length_append, List.length_singleton] at hlen
      omega
  · have hlen := hrest.unquoted h
    rw [Option.getD_some, List.length_append, List.length_singleton] at hlen
    rw [quoted_cons_of_ne hdouble]
    omega

theorem Bounded.cons_single (hrest : Bounded rest) {word : List UInt8}
    (h : fromSingle word (c :: rest) = some ws) :
    textLength ws ≤ (c :: rest).length + word.length := by
  rw [List.length_cons]
  rw [fromSingle] at h
  split_ifs at h
  · have hlen := hrest.unquoted h
    rw [Option.getD_some] at hlen
    omega
  · have hlen := hrest.single h
    rw [List.length_append, List.length_singleton] at hlen
    omega

theorem Bounded.cons_double (hrest : Bounded rest) (htail : Bounded rest.tail) {word : List UInt8}
    (h : fromDouble word (c :: rest) = some ws) :
    textLength ws ≤ (c :: rest).length + word.length := by
  rw [List.length_cons]
  rw [fromDouble.eq_def] at h
  dsimp only at h
  split_ifs at h with hclose hexpand hescape
  · have hlen := hrest.unquoted h
    rw [Option.getD_some] at hlen
    omega
  · rcases rest with _ | ⟨d, rest'⟩
    · cases h
    rw [List.tail_cons] at htail
    replace h : (if isEscapable d then fromDouble (word ++ [d]) rest' else
        if d = 10 then fromDouble word rest' else fromDouble (word ++ [c]) (d :: rest')) =
          some ws := h
    split_ifs at h
    · have hlen := htail.double h
      rw [List.length_append, List.length_singleton] at hlen
      rw [List.length_cons]
      omega
    · have hlen := htail.double h
      rw [List.length_cons]
      omega
    · -- a backslash before any other byte stands for itself
      have hlen := hrest.double h
      rw [List.length_append, List.length_singleton] at hlen
      omega
  · have hlen := hrest.double h
    rw [List.length_append, List.length_singleton] at hlen
    omega

end

/-- A backslash skips a byte, so the induction keeps the bound of the tail too. -/
theorem bounded_tail (line : List UInt8) : Bounded line ∧ Bounded line.tail := by
  induction line with
  | nil => exact ⟨bounded_nil, bounded_nil⟩
  | cons c rest ih =>
    obtain ⟨hrest, htail⟩ := ih
    exact ⟨⟨hrest.cons_unquoted htail, hrest.cons_single, hrest.cons_double htail⟩, hrest⟩

theorem fromUnquoted_length {line : List UInt8} {word : Option (List UInt8)}
    {ws : List (List UInt8)} (h : fromUnquoted word line = some ws) :
    textLength ws + quoted line ≤ line.length + (word.getD []).length + 1 :=
  (bounded_tail line).1.unquoted h

theorem fromDouble_length {line word : List UInt8} {ws : List (List UInt8)}
    (h : fromDouble word line = some ws) : textLength ws ≤ line.length + word.length :=
  (bounded_tail line).1.double h

/-! ### Text between double quotation marks -/

/-- The text stands for itself between double quotation marks: it has no `"`, `$`
or backquote, and no backslash before a backslash, a newline or its end. -/
def Verbatim : List UInt8 → Bool
  | [] => true
  | c :: text =>
      if c = 34 ∨ c = 36 ∨ c = 96 then false
      else if c = 92 ∧ (text = [] ∨ text.head? = some 92 ∨ text.head? = some 10) then false
      else Verbatim text

/-- Verbatim text is read as itself. -/
theorem fromDouble_verbatim {text : List UInt8} (h : Verbatim text = true)
    (word rest : List UInt8) :
    fromDouble word (text ++ 34 :: rest) = fromUnquoted (some (word ++ text)) rest := by
  induction text generalizing word with
  | nil =>
    rw [List.nil_append, fromDouble.eq_def, List.append_nil]
    rfl
  | cons c text ih =>
    rw [Verbatim] at h
    split_ifs at h with hspecial hescape
    simp only [not_or] at hspecial
    obtain ⟨h34, h36, h96⟩ := hspecial
    have hstep : fromDouble word (c :: (text ++ 34 :: rest)) =
        fromDouble (word ++ [c]) (text ++ 34 :: rest) := by
      rw [fromDouble.eq_def]
      dsimp only
      rw [if_neg h34, if_neg (by simp [h36, h96])]
      by_cases h92 : c = 92
      · rw [if_pos h92]
        rcases text with _ | ⟨d, text⟩
        · exact absurd ⟨h92, .inl rfl⟩ hescape
        -- what follows the backslash is literal too, so it escapes nothing
        have hd : d ≠ 92 ∧ d ≠ 10 := by simpa [h92] using hescape
        rw [Verbatim] at h
        split_ifs at h with hspecial' hescape'
        have hplain : isEscapable d = false := by
          simp only [not_or] at hspecial'
          simp [isEscapable, hspecial', hd.1]
        show (if isEscapable d then _ else if d = 10 then _ else _) = _
        rw [hplain, if_neg (by decide), if_neg hd.2]
        rfl
      · rw [if_neg h92]
    rw [List.cons_append, hstep, ih h, List.append_assoc, List.singleton_append]

/-- Of any other text at least one byte is lost. -/
theorem fromDouble_not_verbatim {text : List UInt8} (h : Verbatim text = false)
    {word rest : List UInt8} {ws : List (List UInt8)}
    (hws : fromDouble word (text ++ 34 :: rest) = some ws) :
    textLength ws ≤ word.length + text.length + rest.length := by
  have hline : ∀ text : List UInt8, (text ++ 34 :: rest).length = text.length + rest.length + 1 :=
    fun text => by rw [List.length_append, List.length_cons, Nat.add_assoc]
  induction text generalizing word with
  | nil => cases h
  | cons c text ih =>
    rw [List.cons_append, fromDouble.eq_def] at hws
    dsimp only at hws
    rw [List.length_cons]
    split_ifs at hws with hclose hexpand hescape
    · -- the text closes the quotation, and another mark is left
      have hlen := fromUnquoted_length hws
      have hquoted : quoted (text ++ 34 :: rest) = 1 := if_pos (by simp)
      rw [hquoted, hline, Option.getD_some] at hlen
      omega
    · rcases text with _ | ⟨d, text⟩
      · -- the backslash escapes the closing mark
        have hlen := fromDouble_length (show fromDouble (word ++ [34]) rest = some ws from hws)
        rw [List.length_append, List.length_singleton] at hlen
        omega
      rw [List.length_cons]
      replace hws : (if isEscapable d then fromDouble (word ++ [d]) (text ++ 34 :: rest) else
          if d = 10 then fromDouble word (text ++ 34 :: rest) else
          fromDouble (word ++ [c]) (d :: text ++ 34 :: rest)) = some ws := hws
      split_ifs at hws with hd hnewline
      · have hlen := fromDouble_length hws
        rw [hline, List.length_append, List.length_singleton] at hlen
        omega
      · have hlen := fromDouble_length hws
        rw [hline] at hlen
        omega
      · have hrest : Verbatim (d :: text) = false := by
          have hd92 : d ≠ 92 := by
            rintro rfl
            exact hd (by decide)
          rw [Verbatim, hescape, if_neg (by decide), if_neg (by simp [hd92, hnewline])] at h
          exact h
        have hlen := ih hrest hws
        rw [List.length_append, List.length_singleton, List.length_cons] at hlen
        omega
    · have hrest : Verbatim text = false := by
        rw [Verbatim, if_neg (by simp only [hclose, false_or]; exact hexpand),
          if_neg (by simp [hescape])] at h
        exact h
      have hlen := ih hrest hws
      rw [List.length_append, List.length_singleton] at hlen
      omega

end Shell
