import SnapDesk.CutRange
import SnapDesk.ScriptValues

/-! # What a script means

A script computes with texts of hexadecimal digits.  `meaning` says what it computes,
without a frame, a machine word or an exception: a cut is a slice of the bits of a
number, counted in bits or in bytes, and it is nothing where they are not all there.

`isWellFormed` are the trees whose cuts are given a number and bounds that do not wrap
around.  On a decoded frame such a tree yields its meaning, and where it has none the
one exception of the cuts (`getValue_meaning`).  So it is without undefined behaviour,
and what it yields depends on the fields that it names and on nothing else of the frame
(`getValue_congr`). -/
namespace SnapDesk
open BigNumber

/-! ### The bytes of a value -/

namespace BigNumber

/-- As many bytes of a value as are asked for, the most significant first. -/
def bytesOf : Nat → Nat → List UInt8
  | 0, _ => []
  | length + 1, v => UInt8.ofNat (v / 256 ^ length) :: bytesOf length v

@[simp] theorem length_bytesOf (length v : Nat) : (bytesOf length v).length = length := by
  induction length with
  | zero => rfl
  | succ length ih => rw [bytesOf, List.length_cons, ih]

theorem value_bytesOf (length v : Nat) : value (bytesOf length v) = v % 256 ^ length := by
  induction length with
  | zero => rw [bytesOf, Nat.pow_zero, Nat.mod_one]; rfl
  | succ length ih =>
    have hbyte : (UInt8.ofNat (v / 256 ^ length)).toNat = v / 256 ^ length % 256 :=
      UInt8.toNat_ofNat'
    rw [bytesOf, value_cons, ih, length_bytesOf, hbyte, Nat.pow_succ, Nat.mod_mul, Nat.mul_comm,
      Nat.add_comm]

/-- A number is the bytes of its value. -/
theorem bytesOf_value (number : List UInt8) : bytesOf number.length (value number) = number :=
  eq_of_value_eq (length_bytesOf ..)
    (by rw [value_bytesOf, Nat.mod_eq_of_lt (value_lt number)])

end BigNumber

/-! ### Texts of digits -/

/-- An even number of hexadecimal digits. -/
def isHexText (s : Str) : Bool := s.length % 2 = 0 && s.all isXDigit

theorem isHexText_iff {s : Str} :
    isHexText s = true ↔ s.length % 2 = 0 ∧ ∀ c ∈ s, isXDigit c = true := by
  rw [isHexText, Bool.and_eq_true, decide_eq_true_eq, List.all_eq_true]

set_option maxRecDepth 4000 in
theorem isXDigit_hexBytes : ∀ b : UInt8, (∀ c ∈ hexByte b, isXDigit c = true) ∧
    ∀ c ∈ lowerHexByte b, isXDigit c = true :=
  byte_forall (by decide)

/-- Two digits for every byte. -/
theorem isHexText_flatMap {print : UInt8 → Str} (hlength : ∀ b, (print b).length = 2)
    (hdigits : ∀ b, ∀ c ∈ print b, isXDigit c = true) (number : List UInt8) :
    isHexText (number.flatMap print) = true := by
  refine isHexText_iff.mpr ⟨?_, ?_⟩
  · rw [List.length_flatMap, List.map_congr_left (fun b _ => hlength b), List.map_const',
      List.sum_replicate_nat]
    omega
  · intro c hc
    obtain ⟨b, -, hb⟩ := List.mem_flatMap.mp hc
    exact hdigits b c hb

theorem isHexText_hexText (number : List UInt8) : isHexText (Node.hexText number) = true :=
  isHexText_flatMap (fun _ => rfl) (fun b => (isXDigit_hexBytes b).1) number

theorem isHexText_digest (number : List UInt8) :
    isHexText (number.flatMap lowerHexByte) = true :=
  isHexText_flatMap (fun _ => rfl) (fun b => (isXDigit_hexBytes b).2) number

/-- The number that a text of digits is read as. -/
theorem fromHexString_digits {s : Str} (hne : s ≠ []) (hs : isHexText s = true) :
    fromHexString s = .ok (ofVector (digitPairs s)) := by
  obtain ⟨heven, hdigits⟩ := isHexText_iff.mp hs
  rw [fromHexString_of_ne hne, hexPairs_eq s heven hdigits]
  rfl

/-! ### The meaning -/

namespace Node

/-- The bits of a number from one on, as many as given.  The absent number has no
bits to miss. -/
def slice (first size : Nat) (s : Str) : Option Str :=
  if s = [] then some []
  else if first + size ≤ 8 * (digitPairs s).length then
    some (hexText (bytesOf ((size + 7) / 8) (BigNumber.value (digitPairs s) >>> first % 2 ^ size)))
  else none

/-- The bounds that a cut is given. -/
def bounds : List Node → Option (Nat × Nat)
  | [.value first, .value size] =>
      match stoul first 10, stoul size 10 with
      | .ok first, .ok size => some (first, size)
      | _, _ => none
  | _ => none

section Meaning
variable (digest : Str → Vector UInt8 32) (fieldText : Str → Str)

mutual

/-- The text of a tree, by the texts of the fields. -/
def meaning : Node → Option Str
  | .root none => none
  | .root (some node) => meaning node
  | .value v => some v
  | .getter fieldName => some (fieldText fieldName)
  | .function .sha256 args =>
      (allMeanings args).map fun data => (digest data).toList.flatMap lowerHexByte
  | .function .cutBit args =>
      (bounds args.tail).bind fun b => (headMeaning args).bind (slice b.1 b.2)
  | .function .cutByte args =>
      (bounds args.tail).bind fun b => (headMeaning args).bind (slice (8 * b.1) (8 * b.2))

def allMeanings : List Node → Option Str
  | [] => some []
  | arg :: args =>
      (meaning arg).bind fun text => (allMeanings args).map fun texts => text ++ texts

def headMeaning : List Node → Option Str
  | [] => none
  | arg :: _ => meaning arg

end

end Meaning

/-! ### Well-formed trees -/

/-- The fields that `get_value` answers on every frame. -/
def isAnswered (field : Str) : Bool :=
  field ≠ [] && (!Ie.isValidHex field || digitsValue 16 field < 2 ^ 31)

def isValue : Node → Bool
  | .value _ => true
  | _ => false

/-- Bounds of at least one bit or byte whose sum does not wrap around. -/
def boundsFit (args : List Node) : Bool :=
  match bounds args with
  | some (first, size) => 1 ≤ size && first + size < 2 ^ 64
  | none => false

mutual

/-- The trees that yield digits. -/
def isNumeric : Node → Bool
  | .root _ => false
  | .value v => isHexText v
  | .getter fieldName => isAnswered fieldName
  | .function .sha256 args => allWellFormed args
  | .function .cutBit args => headNumeric args && boundsFit args.tail
  | .function .cutByte args => headNumeric args && boundsFit args.tail

def allWellFormed : List Node → Bool
  | [] => true
  | arg :: args => (arg.isValue || isNumeric arg) && allWellFormed args

def headNumeric : List Node → Bool
  | [] => false
  | arg :: _ => isNumeric arg

end

/-- A tree that is a text, or computes with numbers. -/
def isWellFormed (node : Node) : Bool := node.isValue || isNumeric node

theorem isWellFormed_of_numeric {node : Node} (h : node.isNumeric = true) :
    node.isWellFormed = true := by
  rw [isWellFormed, h, Bool.or_true]

/-- What the arguments of a cut have to be. -/
theorem cutArgs_of_numeric {args : List Node}
    (h : (headNumeric args && boundsFit args.tail) = true) :
    ∃ arg first size a n, args = [arg, .value a, .value n] ∧ arg.isNumeric = true ∧
      stoul a 10 = .ok first ∧ stoul n 10 = .ok size ∧ 1 ≤ size ∧ first + size < 2 ^ 64 := by
  obtain ⟨hhead, hbounds⟩ := Bool.and_eq_true_iff.mp h
  rcases args with _ | ⟨arg, rest⟩
  · cases hhead
  rw [List.tail_cons, boundsFit] at hbounds
  split at hbounds
  · rename_i first size he
    rw [Bool.and_eq_true, decide_eq_true_eq, decide_eq_true_eq] at hbounds
    unfold bounds at he
    split at he
    · rename_i a n
      split at he
      · rename_i hfirst hsize
        cases he
        exact ⟨arg, first, size, a, n, rfl, hhead, hfirst, hsize, hbounds⟩
      · cases he
    · cases he
  · cases hbounds

theorem bounds_eq {a n : Str} {first size : Nat} (hfirst : stoul a 10 = .ok first)
    (hsize : stoul n 10 = .ok size) : bounds [.value a, .value n] = some (first, size) := by
  rw [bounds, hfirst, hsize]

/-! ### Cuts mean slices -/

/-- A text, or the exception of the cuts. -/
def orOutOfRange : Option Str → Except Failure Str
  | some s => .ok s
  | none => .error cutOutOfRange

theorem orOutOfRange_bind (x : Option Str) (f : Str → Option Str) :
    orOutOfRange (x.bind f) = orOutOfRange x >>= fun s => orOutOfRange (f s) := by
  cases x with
  | none => rfl
  | some s => rfl

theorem orOutOfRange_map (x : Option Str) (f : Str → Str) :
    orOutOfRange (x.map f) = orOutOfRange x >>= fun s => .ok (f s) := by
  cases x with
  | none => rfl
  | some s => rfl

section Slices
variable {s : Str} {x : BigNumber} {first size : Nat}

/-- What a cut of a number that was read does is a slice, if it gives the bits that it
should, and throws where they are not there. -/
theorem applyCut_slice (name : Str) (cutter : Nat → Nat → Method BigNumber Unit) (unit : Nat)
    (hs : isHexText s = true) (hx : fromHexString s = .ok x)
    (hcut : ∀ number : List UInt8, unit * first + unit * size ≤ 8 * number.length →
      ∃ y, (cutter first size).run (ofVector number) = .ok () y ∧ y.isNull = false ∧
        y.number.length = (unit * size + 7) / 8 ∧
        BigNumber.value y.number =
          BigNumber.value number >>> (unit * first) % 2 ^ (unit * size))
    (hrejects : ∀ number : List UInt8, 8 * number.length < unit * first + unit * size →
      (cutter first size).run (ofVector number) = .error cutOutOfRange (ofVector number)) :
    applyCut name cutter ⟨x, first, size, 3⟩ =
      orOutOfRange (slice (unit * first) (unit * size) s) := by
  by_cases hne : s = []
  · subst hne
    cases hx
    rfl
  obtain rfl : ofVector (digitPairs s) = x :=
    Except.ok.inj ((fromHexString_digits hne hs).symm.trans hx)
  rw [slice, if_neg hne]
  by_cases hin : unit * first + unit * size ≤ 8 * (digitPairs s).length
  · obtain ⟨y, hrun, hnull, hlength, hvalue⟩ := hcut _ hin
    rw [if_pos hin, applyCut_ok hrun hnull, ← hlength, ← hvalue, bytesOf_value]
    rfl
  · rw [if_neg hin, applyCut]
    simp only [hrejects _ (Nat.lt_of_not_le hin), ofVector_isNull]
    rfl

theorem applyCut_cutBit (name : Str) (hs : isHexText s = true) (hx : fromHexString s = .ok x)
    (hsize : 1 ≤ size) (h64 : first + size < 2 ^ 64) :
    applyCut name cutBit ⟨x, first, size, 3⟩ = orOutOfRange (slice first size s) := by
  have h : applyCut name cutBit ⟨x, first, size, 3⟩ =
      orOutOfRange (slice (1 * first) (1 * size) s) := by
    refine applyCut_slice name _ 1 hs hx (fun number hin => ?_) fun number hout => ?_
    · rw [Nat.one_mul, Nat.one_mul] at hin ⊢
      exact cutBit_value (n := ofVector number) rfl hsize hin h64
    · rw [Nat.one_mul, Nat.one_mul] at hout
      exact cutBit_rejects rfl (by rwa [add64_eq h64])
  rwa [Nat.one_mul, Nat.one_mul] at h

theorem applyCut_cutByte (name : Str) (hs : isHexText s = true) (hx : fromHexString s = .ok x)
    (hsize : 1 ≤ size) (h64 : first + size < 2 ^ 64) :
    applyCut name cutByte ⟨x, first, size, 3⟩ =
      orOutOfRange (slice (8 * first) (8 * size) s) := by
  refine applyCut_slice name _ 8 hs hx (fun number hin => ?_) fun number hout => ?_
  · have hin' : first + size ≤ number.length := by omega
    refine ⟨_, cutByte_ok hsize hin' h64, rfl, ?_, value_bytes hin'⟩
    rw [ofVector_number, List.length_take, List.length_drop]
    omega
  · exact cutByte_rejects rfl (by rw [add64_eq h64, ofVector_number]; omega)

end Slices

/-! ### Evaluation yields the meaning -/

section Evaluation
variable {digest : Str → Vector UInt8 32} {f : Frame}

/-- The first argument of a cut is read as a number, the others as its bounds. -/
theorem readCutArgs_bind (hf : f.isDecoded = true) (name : Str) (arg : Node) {a n : Str}
    {first size : Nat} (hfirst : stoul a 10 = .ok first) (hsize : stoul n 10 = .ok size) :
    readCutArgs digest f name ⟨.null, 0, 0, 0⟩ [arg, .value a, .value n] =
      getValue digest f arg >>= fun s => fromHexString s >>= fun x =>
        .ok ⟨x, first, size, 3⟩ := by
  have hbound (x : BigNumber) : readCutArg name ⟨x, 0, 0, 1⟩ a = .ok ⟨x, first, 0, 2⟩ := by
    show (stoul a 10 >>= _) = _
    rw [hfirst]
    rfl
  have hlength (x : BigNumber) : readCutArg name ⟨x, first, 0, 2⟩ n =
      .ok ⟨x, first, size, 3⟩ := by
    show (stoul n 10 >>= _) = _
    rw [hsize]
    rfl
  rw [readCutArgs]
  refine bind_congr_ok fun s _ => ?_
  show ((fromHexString s >>= fun number => (.ok ⟨number, 0, 0, 1⟩ : Except Failure CutArgs)) >>=
    _) = _
  cases fromHexString s with
  | error e => rfl
  | ok x =>
    rw [ok_bind, ok_bind, readCutArgs, getValue_value hf, ok_bind, hbound, ok_bind, readCutArgs,
      getValue_value hf, ok_bind, hlength, ok_bind, readCutArgs]
    rfl

theorem getValue_function_bit (hf : f.isDecoded = true) (args : List Node) :
    getValue digest f (.function .cutBit args) =
      readCutArgs digest f (lit "Cut_bit") ⟨.null, 0, 0, 0⟩ args >>=
        applyCut (lit "Cut_bit") cutBit := by
  have hcheck : checkFrame f = .ok () := if_neg (by simp [hf])
  rw [getValue, hcheck, ok_bind]

theorem getValue_function_byte (hf : f.isDecoded = true) (args : List Node) :
    getValue digest f (.function .cutByte args) =
      readCutArgs digest f (lit "Cut_byte") ⟨.null, 0, 0, 0⟩ args >>=
        applyCut (lit "Cut_byte") cutByte := by
  have hcheck : checkFrame f = .ok () := if_neg (by simp [hf])
  rw [getValue, hcheck, ok_bind]

theorem checkFrame_ok (hf : f.isDecoded = true) : checkFrame f = .ok () := if_neg (by simp [hf])

/-- A cut of well-formed arguments reads the number, or throws what the number throws. -/
theorem readCutArgs_meaning (hf : f.isDecoded = true) (name : Str)
    (cutter : Nat → Nat → Method BigNumber Unit) {arg : Node} {a n : Str} {first size : Nat}
    (hfirst : stoul a 10 = .ok first) (hsize : stoul n 10 = .ok size) {text : Option Str}
    (hdigits : ∀ s, text = some s → isHexText s = true)
    (harg : getValue digest f arg = orOutOfRange text) {cutText : Str → Option Str}
    (hcut : ∀ s x, isHexText s = true → fromHexString s = .ok x →
      applyCut name cutter ⟨x, first, size, 3⟩ = orOutOfRange (cutText s)) :
    (readCutArgs digest f name ⟨.null, 0, 0, 0⟩ [arg, .value a, .value n] >>=
      applyCut name cutter) = orOutOfRange (text.bind cutText) := by
  rw [readCutArgs_bind hf name arg hfirst hsize, harg]
  rcases text with _ | s
  · rfl
  · have hs := hdigits s rfl
    obtain ⟨x, hx⟩ : ∃ x, fromHexString s = .ok x := by
      by_cases hne : s = []
      · exact ⟨.null, by rw [hne]; rfl⟩
      · exact ⟨_, fromHexString_digits hne hs⟩
    show ((fromHexString s >>= _) >>= _) = _
    rw [hx]
    exact hcut s x hs hx

end Evaluation

/-- What a meaning consists of is digits again. -/
theorem isHexText_slice {first size : Nat} {s s' : Str} (h : slice first size s = some s') :
    isHexText s' = true := by
  unfold slice at h
  split_ifs at h
  · cases h
    rfl
  · cases h
    exact isHexText_hexText _

theorem isHexText_meaning {digest : Str → Vector UInt8 32} {fieldText : Str → Str}
    (hfield : ∀ field, isHexText (fieldText field) = true) {node : Node}
    (h : node.isNumeric = true) {s : Str} (hs : node.meaning digest fieldText = some s) :
    isHexText s = true := by
  match node, h, hs with
  | .value v, h, hs =>
    cases hs
    exact h
  | .getter fieldName, _, hs =>
    cases hs
    exact hfield fieldName
  | .function .sha256 args, _, hs =>
    obtain ⟨data, -, rfl⟩ := Option.map_eq_some_iff.mp hs
    exact isHexText_digest _
  | .function .cutBit args, _, hs =>
    obtain ⟨b, -, hs⟩ := Option.bind_eq_some_iff.mp hs
    obtain ⟨text, -, hs⟩ := Option.bind_eq_some_iff.mp hs
    exact isHexText_slice hs
  | .function .cutByte args, _, hs =>
    obtain ⟨b, -, hs⟩ := Option.bind_eq_some_iff.mp hs
    obtain ⟨text, -, hs⟩ := Option.bind_eq_some_iff.mp hs
    exact isHexText_slice hs

end Node

namespace Frame

/-- The text of a field, as a getter gives it. -/
def fieldText (f : Frame) (field : Str) : Str :=
  match f.getValue field with
  | .ok x => if x.isNull then [] else Node.hexText x.number
  | .error _ => []

theorem isHexText_fieldText (f : Frame) (field : Str) : isHexText (f.fieldText field) = true := by
  unfold fieldText
  split
  · split
    · rfl
    · exact isHexText_hexText _
  · rfl

/-- A field of digits that do not overflow, or of no digits at all, is looked up. -/
theorem getValue_answered {f₀ f : Frame} {buffer : List UInt8} {size : Nat}
    (h : Holds f₀ buffer size) (hdecode : decode.run f₀ = .ok () f) {field : Str}
    (hfield : Node.isAnswered field = true) : ∃ x, f.getValue field = .ok x := by
  obtain ⟨header, body, -, rfl⟩ := h.decoded_of_ok hdecode
  by_cases hname : field ∈ headerNames
  · simp only [headerNames, List.mem_cons, List.not_mem_nil, or_false] at hname
    rcases hname with rfl | rfl | rfl | rfl | rfl | rfl | rfl
    all_goals exact ⟨_, rfl⟩
  rw [getValue_decoded _ _ _ hname]
  by_cases hfixed : field ∈ BeaconBody.fixedNames
  · simp only [BeaconBody.fixedNames, List.mem_cons, List.not_mem_nil, or_false] at hfixed
    rcases hfixed with rfl | rfl | rfl
    all_goals exact ⟨_, rfl⟩
  rw [BeaconBody.getValue_elements hfixed]
  -- what is left is looked up among the elements
  simp only [Node.isAnswered, Bool.and_eq_true, decide_eq_true_eq, Bool.or_eq_true,
    Bool.not_eq_true'] at hfield
  obtain ⟨hne, hother | hsmall⟩ := hfield
  · exact ⟨_, Ie.getValue_other hother _⟩
  · by_cases hvalid : Ie.isValidHex field = true
    · exact ⟨_, Ie.getValue_number hne hvalid hsmall _⟩
    · exact ⟨_, Ie.getValue_other (Bool.not_eq_true _ ▸ hvalid) _⟩

end Frame

namespace Node

section Evaluation
variable {digest : Str → Vector UInt8 32} {f : Frame}

theorem isText_of_mem {args : List Node} (h : allWellFormed args = true) :
    ∀ arg ∈ args, arg.isWellFormed = true := by
  induction args with
  | nil => exact fun _ harg => absurd harg List.not_mem_nil
  | cons arg args ih =>
    rw [allWellFormed, Bool.and_eq_true] at h
    exact List.forall_mem_cons.mpr ⟨h.1, ih h.2⟩

/-- The data of a digest, argument by argument. -/
theorem concatValues_meaning {args : List Node}
    (h : ∀ arg ∈ args, getValue digest f arg = orOutOfRange (arg.meaning digest f.fieldText)) :
    concatValues digest f args = orOutOfRange (allMeanings digest f.fieldText args) := by
  induction args with
  | nil => rfl
  | cons arg args ih =>
    obtain ⟨harg, hargs⟩ := List.forall_mem_cons.mp h
    rw [concatValues, harg, ih hargs, allMeanings, orOutOfRange_bind]
    refine bind_congr_ok fun text _ => ?_
    rw [orOutOfRange_map]
    rfl

/-- **Evaluation yields the meaning**, on a frame that answers every answered field. -/
theorem getValue_orOutOfRange (hf : f.isDecoded = true)
    (hanswers : ∀ field, isAnswered field = true → ∃ x, f.getValue field = .ok x) (node : Node)
    (h : node.isWellFormed = true) :
    getValue digest f node = orOutOfRange (node.meaning digest f.fieldText) := by
  induction node using Node.induction with
  | empty => cases h
  | root node _ => cases h
  | value v => exact getValue_value hf v
  | getter fieldName =>
    obtain ⟨x, hx⟩ := hanswers fieldName h
    have htext : f.fieldText fieldName = if x.isNull then [] else hexText x.number := by
      rw [Frame.fieldText, hx]
    rw [getValue, checkFrame_ok hf, ok_bind, hx, ok_bind, meaning, htext]
    by_cases hnull : x.isNull = true
    · rw [if_pos hnull, if_pos hnull]
      rfl
    · rw [if_neg hnull, if_neg hnull, hexString_eq (Bool.not_eq_true _ ▸ hnull)]
      rfl
  | function kind args ih =>
    cases kind with
    | sha256 =>
      rw [getValue, checkFrame_ok hf, ok_bind, meaning, orOutOfRange_map,
        concatValues_meaning fun arg harg => ih arg harg (isText_of_mem h arg harg)]
      rfl
    | cutBit =>
      obtain ⟨arg, first, size, a, n, rfl, harg, hfirst, hsize, hpos, h64⟩ := cutArgs_of_numeric h
      rw [getValue_function_bit hf, meaning, List.tail_cons, bounds_eq hfirst hsize,
        Option.bind_some, headMeaning]
      exact readCutArgs_meaning hf _ _ hfirst hsize
        (fun s hs => isHexText_meaning (Frame.isHexText_fieldText f) harg hs)
        (ih arg List.mem_cons_self (isWellFormed_of_numeric harg))
        fun s x hs hx => applyCut_cutBit _ hs hx hpos h64
    | cutByte =>
      obtain ⟨arg, first, size, a, n, rfl, harg, hfirst, hsize, hpos, h64⟩ := cutArgs_of_numeric h
      rw [getValue_function_byte hf, meaning, List.tail_cons, bounds_eq hfirst hsize,
        Option.bind_some, headMeaning]
      exact readCutArgs_meaning hf _ _ hfirst hsize
        (fun s hs => isHexText_meaning (Frame.isHexText_fieldText f) harg hs)
        (ih arg List.mem_cons_self (isWellFormed_of_numeric harg))
        fun s x hs hx => applyCut_cutByte _ hs hx hpos h64

end Evaluation

/-- **A well-formed script yields its meaning** on every decoded frame, and where it has
none a cut was out of range. -/
theorem getValue_meaning (digest : Str → Vector UInt8 32) {f₀ f : Frame} {buffer : List UInt8}
    {size : Nat} (h : f₀.Holds buffer size) (hdecode : Frame.decode.run f₀ = .ok () f) {tree : Node}
    (htree : tree.isWellFormed = true) :
    (Node.root (some tree)).getValue digest f =
      match tree.meaning digest f.fieldText with
      | some s => .ok s
      | none => .error (.runtimeError (lit "Runtime error in code: cut out of range")) := by
  have hf := Frame.isDecoded_of_ok h hdecode
  rw [getValue, checkFrame_ok hf, ok_bind,
    getValue_orOutOfRange hf (fun field hfield => Frame.getValue_answered h hdecode hfield) tree htree]
  cases tree.meaning digest f.fieldText with
  | some s => rfl
  | none => rfl

/-- The last bytes of a name of four, and bytes that it does not have. -/
theorem getValue_meaning_home :
    (Node.root (some (cut .cutByte (.getter (lit "0")) 0 2))).getValue
        (fun _ => Vector.replicate 32 0) Frame.homeFrame = .ok (lit "6D65") ∧
      (Node.root (some (cut .cutByte (.getter (lit "0")) 3 2))).getValue
        (fun _ => Vector.replicate 32 0) Frame.homeFrame =
          .error (.runtimeError (lit "Runtime error in code: cut out of range")) := by
  have hmeans (tree : Node) (htree : tree.isWellFormed = true) :=
    getValue_meaning (fun _ => Vector.replicate 32 0) (Frame.holds_ofBuffer ..)
      Frame.decode_run_home htree
  have hinside : (cut .cutByte (.getter (lit "0")) 0 2).meaning (fun _ => Vector.replicate 32 0)
      Frame.homeFrame.fieldText = some (lit "6D65") := by decide +kernel
  have houtside : (cut .cutByte (.getter (lit "0")) 3 2).meaning (fun _ => Vector.replicate 32 0)
      Frame.homeFrame.fieldText = none := by decide +kernel
  constructor
  · rw [hmeans _ (by decide +kernel), hinside]
  · rw [hmeans _ (by decide +kernel), houtside]

/-! ### The fields that matter -/

mutual

/-- The fields that a tree asks for. -/
def fieldNames : Node → List Str
  | .root none => []
  | .root (some node) => fieldNames node
  | .value _ => []
  | .getter fieldName => [fieldName]
  | .function _ args => allFieldNames args

def allFieldNames : List Node → List Str
  | [] => []
  | arg :: args => fieldNames arg ++ allFieldNames args

end

theorem mem_allFieldNames {args : List Node} {arg : Node} (harg : arg ∈ args) {field : Str}
    (hfield : field ∈ arg.fieldNames) : field ∈ allFieldNames args := by
  induction args with
  | nil => cases harg
  | cons head args ih =>
    rw [allFieldNames]
    rcases List.mem_cons.mp harg with rfl | harg
    · exact List.mem_append_left _ hfield
    · exact List.mem_append_right _ (ih harg)

section Congr
variable {digest : Str → Vector UInt8 32} {f f' : Frame}

theorem concatValues_congr {args : List Node}
    (h : ∀ arg ∈ args, getValue digest f arg = getValue digest f' arg) :
    concatValues digest f args = concatValues digest f' args := by
  induction args with
  | nil => rfl
  | cons arg args ih =>
    obtain ⟨harg, hargs⟩ := List.forall_mem_cons.mp h
    rw [concatValues, concatValues, harg, ih hargs]

theorem readCutArgs_congr {args : List Node}
    (h : ∀ arg ∈ args, getValue digest f arg = getValue digest f' arg) (name : Str)
    (st : CutArgs) : readCutArgs digest f name st args = readCutArgs digest f' name st args := by
  induction args generalizing st with
  | nil => rfl
  | cons arg args ih =>
    obtain ⟨harg, hargs⟩ := List.forall_mem_cons.mp h
    rw [readCutArgs, readCutArgs, harg]
    exact bind_congr_ok fun _ _ => bind_congr_ok fun st' _ => ih hargs st'

/-- **A tree sees the fields that it names**, and nothing else of a frame. -/
theorem getValue_congr (hdecoded : f.isDecoded = f'.isDecoded) (node : Node)
    (h : ∀ field ∈ node.fieldNames, f.getValue field = f'.getValue field) :
    getValue digest f node = getValue digest f' node := by
  have hcheck : checkFrame f = checkFrame f' := by rw [checkFrame, checkFrame, hdecoded]
  induction node using Node.induction with
  | empty => rw [getValue, getValue, hcheck]
  | root node ih => rw [getValue, getValue, hcheck, ih h]
  | value v => rw [getValue, getValue, hcheck]
  | getter fieldName =>
    rw [getValue, getValue, hcheck, h fieldName (List.mem_singleton_self fieldName)]
  | function kind args ih =>
    have hargs : ∀ arg ∈ args, getValue digest f arg = getValue digest f' arg :=
      fun arg harg => ih arg harg fun field hfield => h field (mem_allFieldNames harg hfield)
    cases kind with
    | sha256 => rw [getValue, getValue, hcheck, concatValues_congr hargs]
    | cutBit => rw [getValue, getValue, hcheck, readCutArgs_congr hargs]
    | cutByte => rw [getValue, getValue, hcheck, readCutArgs_congr hargs]

end Congr

end Node
end SnapDesk
