import SnapDesk.FieldLookup

/-! # Elements that end a body

Two tests of the element loop end it before the body does.  A length of zero is
taken for the end of the body, although the size of the body is known and an
element may be empty; and an element that is longer than what is left is to be
ignored, but the test leaves out the two bytes of its id and its length.

So the elements behind an empty one are never seen (`visible_iff`), and a last
element that lacks exactly one byte makes `decode` throw instead of being ignored
(`cutOffIgnored_iff`). -/
namespace SnapDesk
open BigNumber

namespace BeaconBody

/-- The fixed fields are the first twelve bytes of a body. -/
theorem decode_fixed {fixed : List UInt8} (hfixed : fixed.length = 12) (tail : List UInt8)
    {size : Nat} (hsize : 12 ≤ size) :
    decode (fixed ++ tail) size = (do
      let firstIe ← decodeElements (fixed ++ tail) size (size + 1) 12 []
      return ⟨ofVector (fixed.take 8).reverse, ofVector ((fixed.drop 8).take 2).reverse,
        ofVector ((fixed.drop 10).take 2).reverse, firstIe⟩) := by
  have hfield (cursor width : Nat) (hc : cursor + width ≤ 12) (hw : 0 < width) :
      fromBuffer ((fixed ++ tail).drop cursor) (size - cursor) width =
        .ok (ofVector ((fixed.drop cursor).take width).reverse) :=
    fromBuffer_slice tail (by omega) hw (by omega) (by omega)
  have htimestamp := hfield 0 8 (by omega) (by omega)
  rw [List.drop_zero, List.drop_zero] at htimestamp
  rw [decode, show fromBuffer (fixed ++ tail) size 8 = _ from htimestamp, ok_bind,
    hfield 8 2 (by omega) (by omega), ok_bind, hfield 10 2 (by omega) (by omega), ok_bind]

/-! ### A last element that is cut off -/

/-- `decode` ignores the bytes of `tail` behind the elements of a body, whatever
follows the body in the buffer. -/
def CutOffIgnored (fixed : List UInt8) (es : List Element) (tail : List UInt8) : Prop :=
  ∀ rest, rest ≠ [] → ∃ body,
    decode (fixed ++ (Element.encodeAll es ++ (tail ++ rest)))
      (12 + (Element.encodeAll es).length + tail.length) = .ok body ∧
    body.firstIe = es.map Element.toIe

/-- One round of the loop at an element of which the first `k` bytes are there. -/
theorem decodeElements_cutOff (e : Element) {k : Nat} (h1 : 1 ≤ k) (hk : k < e.encode.length)
    (pre : List UInt8) {rest : List UInt8} (hrest : rest ≠ []) (rounds : Nat) (ies : List Ie) :
    decodeElements (pre ++ (e.encode.take k ++ rest)) (pre.length + k) (rounds + 1) pre.length ies =
      if k + 1 = e.encode.length then .error (.invalidArgument (lit "element outside buffer"))
      else .ok ies := by
  have hencode := e.encode_length
  have hshort := e.short
  have hnonempty := e.nonempty
  have htake : (e.encode.take k).length = k := by rw [List.length_take]; omega
  by_cases hone : k = 1
  · -- the id alone
    have hlength : pre.length + k < (pre ++ (e.encode.take k ++ rest)).length := by
      have hpos := List.length_pos_iff.mpr hrest
      rw [List.length_append, List.length_append, htake]
      omega
    rw [decodeElements_last hlength (by omega), if_neg (by omega)]
  · obtain ⟨k, rfl⟩ : ∃ j, k = j + 2 := ⟨k - 2, by omega⟩
    have hbytes : e.encode.take (k + 2) = e.id :: UInt8.ofNat e.value.length :: e.value.take k := rfl
    have hid : readByte (pre ++ (e.encode.take (k + 2) ++ rest)) pre.length = .ok e.id := by
      simp [readByte, hbytes]
    have hlength : readByte (pre ++ (e.encode.take (k + 2) ++ rest)) (pre.length + 1) =
        .ok (UInt8.ofNat e.value.length) := by
      simp [readByte, hbytes]
    have htoNat : (UInt8.ofNat e.value.length).toNat = e.value.length := by
      rw [UInt8.toNat_ofNat', Nat.mod_eq_of_lt (by omega)]
    have hne : UInt8.ofNat e.value.length ≠ 0 := by
      intro he
      rw [he] at htoNat
      simp at htoNat
      omega
    rw [decodeElements, if_pos (by omega), hid, ok_bind, hlength, ok_bind, if_neg hne, htoNat]
    by_cases hmissing : k + 2 + 1 = e.encode.length
    · -- the loop lets the element through, `add_ie` does not
      rw [if_neg (by omega), if_pos hmissing, addIe, htoNat, if_pos (by omega)]
      rfl
    · rw [if_pos (by omega), if_neg hmissing]
      rfl

/-- **A cut-off element is ignored** unless exactly one of its bytes is missing. -/
theorem cutOffIgnored_iff {fixed : List UInt8} (hfixed : fixed.length = 12) (es : List Element)
    (e : Element) {k : Nat} (h1 : 1 ≤ k) (hk : k < e.encode.length) :
    CutOffIgnored fixed es (e.encode.take k) ↔ k + 1 ≠ e.encode.length := by
  have htake : (e.encode.take k).length = k := by rw [List.length_take]; omega
  have hdecode {rest : List UInt8} (hrest : rest ≠ []) :
      decode (fixed ++ (Element.encodeAll es ++ (e.encode.take k ++ rest)))
        (12 + (Element.encodeAll es).length + k) =
      if k + 1 = e.encode.length then .error (.invalidArgument (lit "element outside buffer"))
      else .ok ⟨ofVector (fixed.take 8).reverse, ofVector ((fixed.drop 8).take 2).reverse,
        ofVector ((fixed.drop 10).take 2).reverse, es.map Element.toIe⟩ := by
    have hes := Element.length_le_encodeAll es
    obtain ⟨rounds, hrounds⟩ : ∃ rounds,
        12 + (Element.encodeAll es).length + k + 1 = es.length + (rounds + 1) :=
      ⟨12 + (Element.encodeAll es).length + k - es.length, by omega⟩
    have hpre : (fixed ++ Element.encodeAll es).length = 12 + (Element.encodeAll es).length := by
      rw [List.length_append, hfixed]
    -- the elements before it are read, and a round meets the one that is cut off
    have hskip := decodeElements_skip es fixed (e.encode.take k ++ rest)
      (show _ ≤ 12 + (Element.encodeAll es).length + k by omega) (rounds + 1) []
    have hround := decodeElements_cutOff e h1 hk (fixed ++ Element.encodeAll es) hrest rounds
      (es.map Element.toIe)
    rw [hfixed] at hskip
    rw [List.append_assoc, hpre] at hround
    rw [decode_fixed hfixed _ (by omega), hrounds, hskip, List.nil_append, hpre, hround]
    split <;> rfl
  rw [CutOffIgnored, htake]
  constructor
  · intro h hmissing
    obtain ⟨body, hbody, -⟩ := h [0] (by simp)
    rw [hdecode (by simp), if_pos hmissing] at hbody
    cases hbody
  · intro hmissing rest hrest
    exact ⟨_, (hdecode hrest).trans (if_neg hmissing), rfl⟩

/-- An element of three bytes of which only the id is there. -/
theorem cutOffIgnored_iff_id :
    CutOffIgnored (List.replicate 12 0) [] ((Element.mk ⟨3, [7], by decide⟩ (by decide)).encode.take 1) ↔
      1 + 1 ≠ (Element.mk ⟨3, [7], by decide⟩ (by decide)).encode.length :=
  cutOffIgnored_iff (by decide) [] _ (by decide) (by decide)

/-- The same element without its last byte. -/
theorem not_cutOffIgnored_value :
    ¬ ∀ (fixed : List UInt8) (es : List Element) (e : Element) (k : Nat), fixed.length = 12 → 1 ≤ k →
      k < e.encode.length → CutOffIgnored fixed es (e.encode.take k) := by
  intro h
  obtain ⟨body, hbody, -⟩ := h (List.replicate 12 0) [] (Element.mk ⟨3, [7], by decide⟩ (by decide)) 2
    (by decide) (by decide) (by decide) [0] (by simp)
  have hthrows : decode (List.replicate 12 0 ++ (Element.encodeAll [] ++
      ((Element.mk ⟨3, [7], by decide⟩ (by decide)).encode.take 2 ++ [0])))
      (12 + (Element.encodeAll []).length +
        ((Element.mk ⟨3, [7], by decide⟩ (by decide)).encode.take 2).length) =
      .error (.invalidArgument (lit "element outside buffer")) := rfl
  rw [hthrows] at hbody
  cases hbody

end BeaconBody

/-! ### Empty elements -/

namespace InformationElement

/-- The elements before the first empty one. -/
def seen (xs : List InformationElement) : List InformationElement :=
  xs.takeWhile fun x => decide (x.value ≠ [])

/-- Nothing is found in front of an element, if it is seen and has the first of its
ids. -/
theorem withId_seen {before after : List InformationElement} {e : InformationElement}
    (hvalue : e.value ≠ []) (hbefore : ∀ x ∈ before, x.value ≠ [] ∧ x.id ≠ e.id) :
    Ie.withId e.id.toNat ((seen (before ++ e :: after)).map toIe) = ofVector e.value := by
  induction before with
  | nil =>
    rw [List.nil_append, seen, List.takeWhile_cons_of_pos (by simpa using hvalue), List.map_cons,
      Ie.withId, if_pos (show e.toIe.elementId.toNat = e.id.toNat from rfl)]
    rfl
  | cons x before ih =>
    obtain ⟨hx, hid⟩ := hbefore x List.mem_cons_self
    have hne : x.toIe.elementId.toNat ≠ e.id.toNat := fun he => hid (UInt8.toNat_inj.mp he)
    rw [List.cons_append, seen, List.takeWhile_cons_of_pos (by simpa using hx), List.map_cons,
      Ie.withId, if_neg hne]
    exact ih fun y hy => hbefore y (List.mem_cons_of_mem _ hy)

/-- Behind an empty element it is not found at all. -/
theorem withId_unseen {before after : List InformationElement} {e : InformationElement}
    (hempty : ∃ x ∈ before, x.value = []) (hid : ∀ x ∈ before, x.id ≠ e.id) :
    Ie.withId e.id.toNat ((seen (before ++ e :: after)).map toIe) = .null := by
  induction before with
  | nil => simp at hempty
  | cons x before ih =>
    rw [List.cons_append, seen]
    by_cases hx : x.value = []
    · rw [List.takeWhile_cons_of_neg (by simpa using hx)]
      rfl
    · have hne : x.toIe.elementId.toNat ≠ e.id.toNat := fun he =>
        hid x List.mem_cons_self (UInt8.toNat_inj.mp he)
      have hrest : ∃ y ∈ before, y.value = [] := by
        obtain ⟨y, hy, hyempty⟩ := hempty
        rcases List.mem_cons.mp hy with rfl | hy
        · exact absurd hyempty hx
        · exact ⟨y, hy, hyempty⟩
      rw [List.takeWhile_cons_of_pos (by simpa using hx), List.map_cons, Ie.withId, if_neg hne]
      exact ih hrest fun y hy => hid y (List.mem_cons_of_mem _ hy)

end InformationElement

namespace BeaconBody
open InformationElement

/-- **The loop sees the elements before the first empty one**, by induction on those
left. -/
theorem decodeElements_seen (xs : List InformationElement) (pre rest : List UInt8)
    {size rounds : Nat}
    (hsize : size = (pre ++ encodeAll xs).length) (hrounds : xs.length < rounds) (ies : List Ie) :
    decodeElements (pre ++ (encodeAll xs ++ rest)) size rounds pre.length ies =
      .ok (ies ++ (seen xs).map toIe) := by
  obtain ⟨rounds, rfl⟩ :=
    Nat.exists_eq_add_one_of_ne_zero (Nat.ne_of_gt (Nat.zero_lt_of_lt hrounds))
  induction xs generalizing pre rounds ies with
  | nil =>
    rw [decodeElements, if_neg (by simp [hsize, encodeAll]), seen, List.takeWhile_nil, List.map_nil,
      List.append_nil]
    rfl
  | cons x xs ih =>
    rw [encodeAll_cons] at hsize ⊢
    by_cases hx : x.value = []
    · -- an empty element is taken for the end of the body
      have hencode : x.encode = [x.id, 0] := by rw [encode, hx]; rfl
      have hid : readByte (pre ++ (x.encode ++ encodeAll xs ++ rest)) pre.length = .ok x.id := by
        simp [readByte, hencode]
      have hlength : readByte (pre ++ (x.encode ++ encodeAll xs ++ rest)) (pre.length + 1) =
          .ok 0 := by
        simp [readByte, hencode]
      have hcursor : pre.length < size := by
        rw [hsize, hencode]
        simp
      rw [decodeElements, if_pos hcursor, hid, ok_bind, hlength, ok_bind, if_pos rfl, seen,
        List.takeWhile_cons_of_neg (by simpa using hx), List.map_nil, List.append_nil]
      rfl
    · obtain ⟨rounds, rfl⟩ := Nat.exists_eq_add_one_of_ne_zero (n := rounds) (by
        simp only [List.length_cons] at hrounds; omega)
      have hround : decodeElements (pre ++ (x.encode ++ (encodeAll xs ++ rest))) size
        (rounds + 1 + 1)
          pre.length ies = decodeElements (pre ++ (x.encode ++ (encodeAll xs ++ rest))) size
            (rounds + 1) (pre ++ x.encode).length (ies ++ [x.toIe]) :=
        decodeElements_encode ⟨x, List.length_pos_iff.mpr hx⟩
          (by rw [hsize, ← List.append_assoc]; exact (List.prefix_append _ _).length_le) _ ies
      have hrec := ih (pre ++ x.encode) (by rw [hsize, List.append_assoc]) (ies ++ [x.toIe]) rounds
        (by simpa using hrounds)
      rw [List.append_assoc x.encode, hround, ← List.append_assoc pre, hrec, seen, seen,
        List.takeWhile_cons_of_pos (by simpa using hx), List.map_cons, List.append_assoc]
      rfl

/-- Every spelling of the id of an element is answered with its value, in the body
with these fixed fields and elements. -/
def Visible (fixed : List UInt8) (xs : List InformationElement) (e : InformationElement) : Prop :=
  ∀ rest, ∃ body, decode (fixed ++ (encodeAll xs ++ rest)) (12 + (encodeAll xs).length) = .ok body ∧
    ∀ field, field ≠ [] → Ie.isValidHex field = true → digitsValue 16 field = e.id.toNat →
      body.getValue field = .ok (ofVector e.value)

theorem decode_seen {fixed : List UInt8} (hfixed : fixed.length = 12) (xs : List InformationElement)
    (rest : List UInt8) :
    decode (fixed ++ (encodeAll xs ++ rest)) (12 + (encodeAll xs).length) =
      .ok ⟨ofVector (fixed.take 8).reverse, ofVector ((fixed.drop 8).take 2).reverse,
        ofVector ((fixed.drop 10).take 2).reverse, (seen xs).map toIe⟩ := by
  have hlength := length_le_encodeAll xs
  have hloop := decodeElements_seen xs fixed rest
    (show 12 + (encodeAll xs).length = _ by rw [List.length_append, hfixed])
    (show xs.length < 12 + (encodeAll xs).length + 1 by omega) []
  rw [hfixed, List.nil_append] at hloop
  rw [decode_fixed hfixed _ (by omega), hloop]
  rfl

/-- A spelling of an id is not the name of a fixed field. -/
theorem getValue_spelling {field : Str} (hne : field ≠ []) (hvalid : Ie.isValidHex field = true)
    {id : UInt8} (hid : digitsValue 16 field = id.toNat) (body : BeaconBody) :
    body.getValue field = .ok (Ie.withId id.toNat body.firstIe) := by
  have hfixed : field ∉ fixedNames := by
    intro hmem
    have hnames : ∀ name ∈ fixedNames, Ie.isValidHex name = false := by decide
    rw [hnames field hmem] at hvalid
    cases hvalid
  have hlt := id.toNat_lt
  rw [getValue_elements hfixed, Ie.getValue_number hne hvalid (by omega), hid, Nat.mod_eq_of_lt hlt]

set_option maxRecDepth 4000 in
/-- Every id has a spelling. -/
theorem exists_spelling : ∀ id : UInt8, hexByte id ≠ [] ∧ Ie.isValidHex (hexByte id) = true ∧
    digitsValue 16 (hexByte id) = id.toNat :=
  byte_forall (by decide)

/-- **An element is visible** exactly if no empty element stands before it. -/
theorem visible_iff {fixed : List UInt8} (hfixed : fixed.length = 12)
    (before after : List InformationElement) {e : InformationElement} (hvalue : e.value ≠ [])
    (hid : ∀ x ∈ before, x.id ≠ e.id) :
    Visible fixed (before ++ e :: after) e ↔ ∀ x ∈ before, x.value ≠ [] := by
  constructor
  · intro h
    by_contra hempty
    push Not at hempty
    obtain ⟨body, hbody, hvisible⟩ := h []
    rw [decode_seen hfixed] at hbody
    cases hbody
    obtain ⟨hne, hvalid, hspells⟩ := exists_spelling e.id
    have hanswer := hvisible _ hne hvalid hspells
    rw [getValue_spelling hne hvalid hspells, withId_unseen hempty hid] at hanswer
    exact absurd (congrArg BigNumber.isNull (Except.ok.inj hanswer)) (by simp [null])
  · intro hnonempty rest
    refine ⟨_, decode_seen hfixed _ rest, fun field hne hvalid hspells => ?_⟩
    rw [getValue_spelling hne hvalid hspells,
      withId_seen hvalue fun x hx => ⟨hnonempty x hx, hid x hx⟩]

/-- The supported rates behind an SSID. -/
theorem visible_iff_rates :
    Visible (List.replicate 12 0) ([⟨0, lit "home", by decide⟩] ++ ⟨1, [130], by decide⟩ :: [])
        ⟨1, [130], by decide⟩ ↔
      ∀ x ∈ [(⟨0, lit "home", by decide⟩ : InformationElement)], x.value ≠ [] :=
  visible_iff (by decide) _ _ (by decide) (by decide)

/-- The supported rates of a hidden network, behind its empty SSID. -/
theorem not_visible_hidden :
    ¬ ∀ (fixed : List UInt8) (before after : List InformationElement) (e : InformationElement),
      fixed.length = 12 → e.value ≠ [] → (∀ x ∈ before, x.id ≠ e.id) →
      Visible fixed (before ++ e :: after) e := by
  intro h
  obtain ⟨body, hbody, hvisible⟩ := h (List.replicate 12 0) [⟨0, [], by decide⟩] []
    ⟨1, [130], by decide⟩ (by decide) (by decide) (by decide) []
  rw [decode_seen (by decide)] at hbody
  cases hbody
  have hspells : digitsValue 16 (lit "1") =
      (InformationElement.mk 1 [130] (by decide)).id.toNat := by
    decide
  have hanswer := hvisible (lit "1") (by decide) (by decide) hspells
  rw [getValue_spelling (by decide) (by decide) hspells,
    withId_unseen ⟨_, List.mem_cons_self, rfl⟩ (by decide)] at hanswer
  exact absurd (congrArg BigNumber.isNull (Except.ok.inj hanswer)) (by simp [null])

end BeaconBody
end SnapDesk
